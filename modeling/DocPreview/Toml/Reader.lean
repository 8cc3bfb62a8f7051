import DocPreview.Text.Basic

/-!
# Reading TOML

A reader takes what it reads from the start of a text. If it does not find it, another reader may
be tried at the same place, unless it is committed: then the text is wrong. What is wrong, and
where, is shown as a message under the line of the text with a mark below the place.

## Main definitions

* `Problem`: what is wrong at a place where a text is read.
* `Failure`: a message for a stretch of a text, and `Failure.text`, how it is shown.
* `Reader`: a reader; `Outcome`: what it gives.
* `commit`, `optional`, `orElse`, `many`, `separated`: readers made of others.
* `named`, `expecting`: what is said about a place where a reader finds nothing.
-/

namespace DocPreview.Toml

open Text

/-- A stretch of a text, by the numbers of characters before its start and its end. -/
structure Span where
  start : Nat
  stop : Nat
  deriving Repr, DecidableEq

/-- What is wrong at a place where a text is read. -/
structure Problem where
  /-- What the text there is no valid form of. -/
  label : Option String
  /-- What could stand there. -/
  expected : List String
  /-- Why what stands there does not count. -/
  cause : Option String
  deriving Repr, DecidableEq

namespace Problem

/-- Nothing is known but the place. -/
def unknown : Problem := ⟨none, [], none⟩

/-- What stands there is refused for a reason. -/
def refused (cause : String) : Problem := ⟨none, [], some cause⟩

/-- A problem within something; the name of the innermost part counts. -/
def within (p : Problem) (label : String) : Problem :=
  { p with label := p.label.orElse fun _ => some label }

/-- A problem with one more thing that could stand there. -/
def expecting (p : Problem) (what : String) : Problem := { p with expected := p.expected ++ [what] }

/-- The words for a problem, one line for each thing that is known. -/
def message (p : Problem) : String :=
  let label := (p.label.map fun l => "invalid " ++ l).toList
  let expected :=
    if p.expected.isEmpty then [] else ["expected " ++ ", ".intercalate p.expected]
  "\n".intercalate (label ++ expected ++ p.cause.toList)

end Problem

/-- A character as named among those that could stand somewhere. -/
def quotedChar (c : Char) : String := "\x60" ++ c.toString ++ "\x60"

/-- A message for a stretch of a text. -/
structure Failure where
  message : String
  /-- The stretch, if it is known. -/
  span : Option Span
  deriving Repr, DecidableEq

/-- The number of a line, what comes before its place in it, and the line, where a place has
`position` characters before it. -/
structure Place where
  lineNumber : Nat
  columnNumber : Nat
  line : Text
  deriving Repr, DecidableEq

/-- A text cut at line feeds. -/
def rows : Text → List Text
  | [] => [[]]
  | c :: r =>
    if c = '\n' then [] :: rows r
    else
      match rows r with
      | [] => [[c]]
      | l :: ls => (c :: l) :: ls

/-- The place of a character. A place at the end of a text counts as one behind the last
character, on its line. -/
def placeOf (text : Text) (position : Nat) : Place :=
  let safe := min position (text.length - 1)
  let before := rows (text.take safe)
  let number := before.length - 1
  let column := (before.getLast?.map List.length).getD 0
  ⟨number + 1, column + (position - safe) + 1, ((rows text)[number]?).getD []⟩

/-- A failure as shown for its text. -/
def Failure.show (f : Failure) (text : Text) : String :=
  let shown := match f.span with
    | none => ""
    | some span =>
      let place := placeOf text span.start
      let column := place.columnNumber - 1
      let number := toString place.lineNumber
      let margin := String.ofList (List.replicate (number.length + 1) ' ')
      let size := byteSize ((text.drop span.start).take (span.stop - span.start))
      let marks := max 1 (min size (byteSize place.line - column))
      "TOML parse error at line " ++ number ++ ", column " ++ toString place.columnNumber ++ "\n" ++
        margin ++ "|\n" ++ number ++ " | " ++ String.ofList place.line ++ "\n" ++
        margin ++ "|" ++ String.ofList (List.replicate (column + 1) ' ') ++
        String.ofList (List.replicate marks '^') ++ "\n"
  shown ++ f.message ++ "\n"

/-- What is left of a text. -/
structure Rest where
  text : Text
  /-- The number of characters before it. -/
  position : Nat
  deriving Repr, DecidableEq

/-- What a reader gives. -/
inductive Outcome (α : Type) where
  | found (a : α) (rest : Rest)
  /-- Nothing is found, and other readers can be tried. -/
  | missed (p : Problem) (rest : Rest)
  /-- The text is wrong. -/
  | failed (p : Problem) (rest : Rest)

/-- A reader of something at the start of a text. -/
def Reader (α : Type) : Type := Rest → Outcome α

namespace Reader

instance : Monad Reader where
  pure a := fun rest => .found a rest
  bind r f := fun rest =>
    match r rest with
    | .found a rest => f a rest
    | .missed p rest => .missed p rest
    | .failed p rest => .failed p rest

variable {α β : Type}

/-- Finds nothing. -/
def miss (p : Problem) : Reader α := fun rest => .missed p rest

/-- A wrong text. -/
def fail (p : Problem) : Reader α := fun rest => .failed p rest

/-- The number of characters before the place. -/
def position : Reader Nat := fun rest => .found rest.position rest

/-- The next character, which is not taken. -/
def look : Reader (Option Char) := fun rest => .found rest.text.head? rest

/-- The next two characters, which are not taken. -/
def lookTwo : Reader Text := fun rest => .found (rest.text.take 2) rest

/-- A character. -/
def next : Reader Char := fun rest =>
  match rest.text with
  | [] => .missed .unknown rest
  | c :: r => .found c ⟨r, rest.position + 1⟩

/-- A character with a property. -/
def satisfying (p : Char → Bool) : Reader Char := fun rest =>
  match rest.text with
  | [] => .missed .unknown rest
  | c :: r => if p c then .found c ⟨r, rest.position + 1⟩ else .missed .unknown rest

/-- A given character. -/
def char (c : Char) : Reader Char := satisfying (· = c)

/-- The longest run of at most `most` characters with a property. -/
def takeUpTo (most : Nat) (p : Char → Bool) : Reader Text := fun rest =>
  let run := (rest.text.take most).takeWhile p
  .found run ⟨rest.text.drop run.length, rest.position + run.length⟩

/-- The longest run of characters with a property. -/
def takeWhile (p : Char → Bool) : Reader Text := fun rest =>
  let run := rest.text.takeWhile p
  .found run ⟨rest.text.drop run.length, rest.position + run.length⟩

/-- The longest run of characters with a property, of which there is at least one. -/
def takeWhile1 (p : Char → Bool) : Reader Text := fun rest =>
  match takeWhile p rest with
  | .found [] _ => .missed .unknown rest
  | o => o

/-- A given text. -/
def word (s : Text) : Reader Unit := fun rest =>
  match Text.after? s rest.text with
  | some r => .found () ⟨r, rest.position + s.length⟩
  | none => .missed .unknown rest

/-- The end of the text. -/
def atEnd : Reader Unit := fun rest =>
  if rest.text.isEmpty then .found () rest else .missed .unknown rest

/-- A reader without an alternative. -/
def commit (r : Reader α) : Reader α := fun rest =>
  match r rest with
  | .missed p rest => .failed p rest
  | o => o

/-- What a reader finds, if it finds something. -/
def optional (r : Reader α) : Reader (Option α) := fun rest =>
  match r rest with
  | .found a rest => .found (some a) rest
  | .missed _ _ => .found none rest
  | .failed p rest => .failed p rest

/-- What a reader finds, or another one at the same place. -/
def orElse (r s : Reader α) : Reader α := fun rest =>
  match r rest with
  | .missed _ _ => s rest
  | o => o

/-- A reader that takes nothing. -/
def peek (r : Reader α) : Reader α := fun rest =>
  match r rest with
  | .found a _ => .found a rest
  | .missed p _ => .missed p rest
  | .failed p _ => .failed p rest

/-- What the rest of a text is to a reader that says more about problems. -/
def withProblem (f : Problem → Problem) (r : Reader α) : Reader α := fun rest =>
  match r rest with
  | .found a rest => .found a rest
  | .missed p rest => .missed (f p) rest
  | .failed p rest => .failed (f p) rest

/-- A reader whose problems are within something. -/
def named (label : String) (r : Reader α) : Reader α := withProblem (·.within label) r

/-- A reader at places where the given things could stand. -/
def expecting (what : List String) (r : Reader α) : Reader α :=
  withProblem (fun p => what.foldl Problem.expecting p) r

/-- What a reader finds if it counts; if it does not, the place is where the reader started. -/
def check (r : Reader α) (f : α → Except Problem β) : Reader β := fun rest =>
  match r rest with
  | .found a after =>
    match f a with
    | .ok b => .found b after
    | .error p => .missed p rest
  | .missed p rest => .missed p rest
  | .failed p rest => .failed p rest

/-- What a reader finds, which must count; if it does not, the place is where the reader started. -/
def require (r : Reader α) (f : α → Except Problem β) : Reader β := fun rest =>
  match r rest with
  | .found a after =>
    match f a with
    | .ok b => .found b after
    | .error p => .failed p rest
  | .missed p rest => .missed p rest
  | .failed p rest => .failed p rest

/-- The stretch that a reader takes, with what it finds. -/
def spanned (r : Reader α) : Reader (α × Span) := do
  let start ← position
  let a ← r
  return (a, ⟨start, ← position⟩)

/-- The text that a reader takes. -/
def taken (r : Reader α) : Reader Text := fun rest =>
  match r rest with
  | .found _ after => .found (rest.text.take (after.position - rest.position)) after
  | .missed p rest => .missed p rest
  | .failed p rest => .failed p rest

/-- What a reader finds again and again; `fuel` bounds how often. -/
def manyWithin (r : Reader α) : Nat → Reader (List α)
  | 0 => pure []
  | fuel + 1 => do
    match ← optional r with
    | none => return []
    | some a => return a :: (← manyWithin r fuel)

/-- What a reader that takes something finds again and again. -/
def many (r : Reader α) : Reader (List α) := fun rest => manyWithin r (rest.text.length + 1) rest

/-- What a reader that takes something finds again and again, at least once. -/
def many1 (r : Reader α) : Reader (List α) := do
  let a ← r
  return a :: (← many r)

/-- What a reader finds at least once, between separators. -/
def separated1 (r : Reader α) (separator : Reader β) : Reader (List α) := do
  let a ← r
  return a :: (← many do
    let _ ← separator
    r)

/-- What a reader finds between separators. -/
def separated (r : Reader α) (separator : Reader β) : Reader (List α) := do
  return (← optional (separated1 r separator)).getD []

end Reader

end DocPreview.Toml
