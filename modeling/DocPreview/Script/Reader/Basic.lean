import DocPreview.Script.Token

/-!
# Reading scripts token by token

A reader goes over the tokens of a text with one token of lookahead. It ends with a result or with
a failure, and collects on its way the failures that do not stop it and the comments.

A grammar rule that nests calls the rules for its parts through a function from `Goal`; the
recursion is tied once, over the number of nested rules, in the module of the whole grammar.

## Main definitions

* `Scope`: what surrounds the place that is read.
* `Reader`: the state of reading, and the actions on tokens: `bump`, `eat`, `expect`.
* `Goal`, `Rules`: the rules that nest.
-/

namespace DocPreview.Script

/-- What surrounds a place in a script. -/
structure Scope where
  /-- Whether the text is a module. -/
  isModule : Bool
  /-- Whether the stricter rules of modules and classes hold. -/
  isStrict : Bool
  inFunction : Bool
  inAsync : Bool
  inGenerator : Bool
  /-- Whether `super.x` can be written. -/
  allowsSuper : Bool
  /-- Whether `super()` can be written. -/
  allowsSuperCall : Bool
  /-- Whether `new.target` can be written. -/
  allowsNewTarget : Bool
  /-- Whether the operator `in` can be written. -/
  allowsIn : Bool
  inLoop : Bool
  inSwitch : Bool
  /-- The labels of the statements around, and whether they label a loop. -/
  labels : List (String × Bool)
  isTopLevel : Bool
  /-- Whether a statement can return. -/
  allowsReturn : Bool

/-- The scope of the items of a module. -/
def Scope.module : Scope :=
  ⟨true, true, false, true, false, false, false, false, true, false, false, [], true, false⟩

/-- The scope of an expression that is not part of a module. -/
def Scope.plain : Scope :=
  { Scope.module with isModule := false, isStrict := false, inAsync := false }

/-- The scope of the items of a module that is the body of a function. -/
def Scope.moduleBody : Scope := { Scope.module with allowsReturn := true }

/-- The state of reading. -/
structure ReaderState where
  /-- The token to be read next. -/
  cur : Lexeme
  /-- Where the text after the last token read begins. -/
  start : Cursor
  /-- The last token read, and its span. -/
  lastToken : Option Token
  last : Span
  /-- The number of characters of the whole text. -/
  size : Nat
  /-- The failures that did not stop the reading, the latest first. -/
  failures : List Failure
  /-- The comments, the latest first. -/
  comments : List PlacedComment

/-- An action that reads. -/
abbrev Reader := ReaderT Scope (StateT ReaderState (Except Failure))

/-- The rules of the grammar that nest. -/
inductive Goal where
  | expression
  | assignment
  | statement
  | binding
  | element
  deriving Repr, DecidableEq

/-- The rules of the grammar. -/
abbrev Rules := Goal → Reader Node

namespace Reader

/-- The token to be read next. -/
def cur : Reader Lexeme := return (← get).cur

/-- The start of the token to be read next. -/
def position : Reader Nat := return (← get).cur.span.lo

/-- The end of the last token read. -/
def lastEnd : Reader Nat := return (← get).last.hi

/-- The span from a position to the end of the last token read. -/
def spanFrom (lo : Nat) : Reader Span := return ⟨lo, ← lastEnd⟩

/-- A bound for the number of tokens that are left. -/
def fuel : Reader Nat := return (← get).cur.next.rest.length + 2

/-- The text of a token in a message. -/
def shown : Token → String
  | .eof => "<eof>"
  | .word name _ => name
  | .privateName name => "#" ++ name
  | .punct text => text
  | .string value raw => "string literal (" ++ value ++ ", " ++ raw ++ ")"
  | .number raw => "numeric literal (" ++ raw ++ ", " ++ raw ++ ")"
  | .bigInt raw => "bigint literal (" ++ raw ++ ", " ++ raw ++ ")"
  | .bad _ => "<lexing error>"

/-- The span of the token to be read next, or of the last one at the end of the text. -/
def here : Reader Span := do
  let s ← get
  return match s.cur.token with
    | .eof => s.last
    | _ => s.cur.span

/-- Stops with a problem at a place. -/
def failAt {α : Type} (span : Span) (p : Problem) : Reader α := throw ⟨span, p⟩

/-- Stops with a problem at the token to be read next. -/
def fail {α : Type} (p : Problem) : Reader α := do failAt (← here) p

/-- Stops because the text ends. -/
def failEnd {α : Type} : Reader α := do
  let n := (← get).size
  failAt ⟨n, n⟩ .unexpectedEnd

/-- Stops because another token is needed. -/
def unexpected {α : Type} (wanted : String) : Reader α := do
  fail (.unexpectedToken (shown (← cur).token) wanted)

/-- Notes a problem and goes on. -/
def noteAt (span : Span) (p : Problem) : Reader Unit :=
  modify fun s => { s with failures := ⟨span, p⟩ :: s.failures }

/-- Notes a problem at the token to be read next and goes on. -/
def note (p : Problem) : Reader Unit := do noteAt (← here) p

/-- Notes a problem that is one under the stricter rules only. -/
def noteStrictAt (span : Span) (p : Problem) : Reader Unit := do
  if (← read).isStrict then
    noteAt span p

/-- Stops if the next token is the end of the text or no token at all. -/
def needToken : Reader Lexeme := do
  let l ← cur
  match l.token with
  | .eof => failEnd
  | .bad f => throw f
  | _ => return l

/-- Keywords after which a comment belongs to what follows. -/
def keywords : List String :=
  ["await", "break", "case", "catch", "class", "const", "continue", "debugger", "default",
    "delete", "do", "else", "export", "extends", "finally", "for", "function", "if", "import",
    "in", "instanceof", "let", "new", "return", "super", "switch", "this", "throw", "try",
    "typeof", "var", "void", "while", "with", "yield", "null", "true", "false"]

/-- Whether a block comment on the same line belongs to the token before it. -/
def takesComment : Token → Bool
  | .word name _ => !keywords.contains name
  | .punct text => text = ";" || text = "\x7b" || text = "\x7d"
  | .string _ _ | .number _ | .bigInt _ => true
  | _ => false

/-- The binary operators that are punctuators. -/
def binaryPunctuators : List String :=
  ["==", "!=", "===", "!==", "<", "<=", ">", ">=", "<<", ">>", ">>>", "+", "-", "*", "/", "%",
    "|", "^", "&", "||", "&&", "**", "??"]

/-- Whether a line comment on the same line belongs to the token before it. -/
def takesLineComment : Token → Bool
  | .punct text => !binaryPunctuators.contains text
  | .word name _ => name ≠ "in" && name ≠ "instanceof"
  | _ => true

/-- Places a comment before the token at `next`, or after the token before it. -/
def placeComment (lastToken : Option Token) (last : Span) (next : Nat) (c : FoundComment) :
    PlacedComment :=
  let belongsToLast :=
    !c.afterBreak &&
      match lastToken with
      | none => false
      | some t => if c.comment.isLine then takesLineComment t else takesComment t
  if belongsToLast then ⟨last.hi, false, c.comment⟩ else ⟨next, true, c.comment⟩

/-- Places the comments before the end of the text. -/
def placeLastComment (lastToken : Option Token) (last : Span) (size : Nat) (c : FoundComment) :
    PlacedComment :=
  match lastToken with
  | none => ⟨size, true, c.comment⟩
  | some _ => ⟨last.hi, false, c.comment⟩

/-- Goes on at a place; the token read next is the one there. -/
def jump (last : Span) (c : Cursor) : Reader Unit :=
  modify fun s => { s with cur := Lexeme.read c, start := c, last := last }

/-- Whether a problem of a token counts in a scope. -/
def counts (scope : Scope) : Problem → Bool
  | .legacyOctal | .legacyDecimal => scope.isStrict
  | .htmlComment => scope.isModule
  | _ => true

/-- Takes the next token. -/
def bump : Reader Unit := do
  let scope ← read
  modify fun s =>
    let placed := s.cur.comments.map (placeComment s.lastToken s.last s.cur.span.lo)
    let problems := s.cur.problems.filter fun f => counts scope f.problem
    { s with
      cur := Lexeme.read s.cur.next
      start := s.cur.next
      lastToken := some s.cur.token
      last := s.cur.span
      failures := problems.reverse ++ s.failures
      comments := placed.reverse ++ s.comments }

/-- The token after the next one. -/
def peek : Reader Lexeme := return Lexeme.read (← cur).next

/-- Whether the next token is a given punctuator. -/
def isPunct (p : String) : Reader Bool := return (← cur).token = .punct p

/-- Whether the next token is a given word, written without escapes. -/
def isWord (w : String) : Reader Bool := return (← cur).token = .word w false

/-- Takes the next token if it is a given punctuator. -/
def eat (p : String) : Reader Bool := do
  if ← isPunct p then
    bump
    return true
  return false

/-- Takes the next token if it is a given word. -/
def eatWord (w : String) : Reader Bool := do
  if ← isWord w then
    bump
    return true
  return false

/-- Takes a given punctuator, or stops. -/
def expect (p : String) : Reader Unit := do
  if !(← eat p) then
    fail (.expected p (shown (← cur).token))

/-- Takes a given word, or stops. -/
def expectWord (w : String) : Reader Unit := do
  if !(← eatWord w) then
    fail (.expected w (shown (← cur).token))

/-- Whether a statement can end before the next token. -/
def canEnd : Reader Bool := do
  let l ← cur
  return match l.token with
    | .eof => true
    | .punct ";" => true
    | .punct "\x7d" => true
    | _ => l.afterBreak

/-- Takes the end of a statement if there is one. -/
def eatEnd : Reader Bool := do
  if ← eat ";" then
    return true
  canEnd

/-- Takes the end of a statement, or stops. -/
def expectEnd : Reader Unit := do
  if !(← eatEnd) then
    fail (.expected ";" (shown (← cur).token))

/-- Reads items as long as there are any; `n` bounds their number. -/
def many {α : Type} (item : Reader (Option α)) : Nat → Reader (List α)
  | 0 => return []
  | n + 1 => do
    match ← item with
    | none => return []
    | some a => return a :: (← many item n)

/-- Extends a value as long as it can be extended; `n` bounds the number of times. -/
def iterate {α : Type} (step : α → Reader (Option α)) : Nat → α → Reader α
  | 0, a => return a
  | n + 1, a => do
    match ← step a with
    | none => return a
    | some b => iterate step n b

/-- Reads items up to a closing punctuator, with commas between them and perhaps after them. -/
def list (item : Reader Node) (closer : String) : Reader (List Node) := do
  let n ← fuel
  let items ← many (do
    if ← isPunct closer then
      return none
    let a ← item
    if !(← isPunct closer) then
      expect ","
    return some a) n
  expect closer
  return items

/-- Reads in a changed scope. -/
def within {α : Type} (change : Scope → Scope) (r : Reader α) : Reader α :=
  withReader change r

end Reader

end DocPreview.Script
