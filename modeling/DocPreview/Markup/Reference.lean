import DocPreview.Markup.Line
import DocPreview.Text.Entity

/-!
# References and what they refer to

A link or an image names its target either in place, as `(target "title")`, or through a label
that a definition `[label]: target "title"` somewhere in the document explains. The parts of both
forms are read here; each reader gives what it read and what follows.

## Main definitions

* `Definition`: a label with its target.
* `label?`, `target?`, `title?`: the parts.
* `resource?`: a target in place.
* `readDefinitions`: the definitions at the start of a content.
-/

namespace DocPreview.Markup

open Text

/-- What a link or an image leads to. -/
structure Target where
  url : Text
  title : Option Text
  deriving Repr, DecidableEq, Inhabited

/-- A label with what it stands for. -/
structure Definition where
  label : Text
  target : Target
  deriving Repr, DecidableEq

/-- The punctuation of ASCII. -/
def isAsciiPunctuation (c : Char) : Bool :=
  let n := c.toNat
  (0x21 ≤ n && n ≤ 0x2F) || (0x3A ≤ n && n ≤ 0x40) || (0x5B ≤ n && n ≤ 0x60) ||
    (0x7B ≤ n && n ≤ 0x7E)

/-- A text without backslashes before punctuation and with its character references replaced;
`fuel` bounds the number of steps. -/
def unescapeWithin : Nat → Text → Text
  | 0, s => s
  | _ + 1, [] => []
  | fuel + 1, '\\' :: c :: r =>
    if isAsciiPunctuation c then c :: unescapeWithin fuel r
    else '\\' :: unescapeWithin fuel (c :: r)
  | fuel + 1, '&' :: r =>
    match Entity.reference? r with
    | some (cs, rest) => cs ++ unescapeWithin fuel rest
    | none => '&' :: unescapeWithin fuel r
  | fuel + 1, c :: r => c :: unescapeWithin fuel r

/-- A text without backslashes before punctuation and with its character references replaced. -/
def unescape (s : Text) : Text := unescapeWithin s.length s

/-- The upper case form of a letter of the scripts that have cases in blocks. -/
def upperLetter (c : Char) : Char :=
  let n := c.toNat
  if 'a' ≤ c && c ≤ 'z' then Char.ofNat (n - 32)
  else if (0xE0 ≤ n && n ≤ 0xFE && n ≠ 0xF7) || (0x3B1 ≤ n && n ≤ 0x3C9 && n ≠ 0x3C2) ||
      (0x430 ≤ n && n ≤ 0x44F) then Char.ofNat (n - 32)
  else if n = 0x3C2 then Char.ofNat 0x3A3
  else if 0x450 ≤ n && n ≤ 0x45F then Char.ofNat (n - 80)
  else if 0x100 ≤ n && n ≤ 0x137 && n % 2 = 1 then Char.ofNat (n - 1)
  else if n = 0x17F then 'S'
  else c

/-- The lower case form of a letter of ASCII, Latin-1, Greek or Cyrillic. -/
def lowerLetter (c : Char) : Char :=
  let n := c.toNat
  if ('A' ≤ c && c ≤ 'Z') || (0xC0 ≤ n && n ≤ 0xDE && n ≠ 0xD7) ||
      (0x391 ≤ n && n ≤ 0x3A9 && n ≠ 0x3A2) || (0x410 ≤ n && n ≤ 0x42F) then Char.ofNat (n + 32)
  else if 0x400 ≤ n && n ≤ 0x40F then Char.ofNat (n + 80)
  else if 0x100 ≤ n && n ≤ 0x137 && n % 2 = 0 then Char.ofNat (n + 1)
  else c

/-- The blank characters of a label. -/
def isLabelBlank (c : Char) : Bool := c = ' ' || c = '\t' || c = '\n' || c = '\r'

/-- A text in which each run of blanks is one blank, if it follows something and something
follows it. -/
def joinWords (afterBlank : Bool) : Text → Text
  | [] => []
  | c :: r =>
    if isLabelBlank c then joinWords true r
    else if afterBlank then ' ' :: c :: joinWords false r
    else c :: joinWords false r

/-- The form in which labels are compared: neither case nor the number of blanks counts. -/
def normalizeLabel (s : Text) : Text :=
  (joinWords false (s.dropWhile isLabelBlank)).map fun c => upperLetter (lowerLetter c)

/-- The characters of a label up to its closing bracket, and what follows the bracket. -/
def labelBody? : Text → Option (Text × Text)
  | [] => none
  | ']' :: r => some ([], r)
  | '[' :: _ => none
  | '\\' :: c :: r =>
    if c = '[' || c = ']' || c = '\\' then
      (labelBody? r).map fun (s, rest) => ('\\' :: c :: s, rest)
    else (labelBody? (c :: r)).map fun (s, rest) => ('\\' :: s, rest)
  | c :: r => (labelBody? r).map fun (s, rest) => (c :: s, rest)

/-- The longest label, in characters. -/
def maxLabelLength : Nat := 999

/-- The label that a text starts with, written between brackets; it is not blank. -/
def label? : Text → Option (Text × Text)
  | '[' :: r =>
    match labelBody? r with
    | some (s, rest) =>
      if s.all isLabelBlank || maxLabelLength < s.length then none else some (s, rest)
    | none => none
  | _ => none

/-- A target between angle brackets, after the opening one. -/
def enclosed? : Text → Option (Text × Text)
  | [] => none
  | '>' :: r => some ([], r)
  | '\\' :: c :: r =>
    if c = '<' || c = '>' || c = '\\' then
      (enclosed? r).map fun (s, rest) => ('\\' :: c :: s, rest)
    else (enclosed? (c :: r)).map fun (s, rest) => ('\\' :: s, rest)
  | c :: r =>
    if c = '<' || c = '\n' || c = '\r' then none
    else (enclosed? r).map fun (s, rest) => (c :: s, rest)

/-- The characters that a bare target cannot hold. -/
def isTargetStop (c : Char) : Bool := (1 ≤ c.toNat && c.toNat ≤ 0x20) || c.toNat = 0x7F

/-- The greatest number of open parentheses in a bare target. -/
def maxParens : Nat := 32

/-- A bare target, given the number of parentheses that are open. -/
def bare? (opened : Nat) : Text → Option (Text × Text)
  | [] => if opened = 0 then some ([], []) else none
  | '\\' :: c :: r =>
    if c = '(' || c = ')' || c = '\\' then
      (bare? opened r).map fun (s, rest) => ('\\' :: c :: s, rest)
    else (bare? opened (c :: r)).map fun (s, rest) => ('\\' :: s, rest)
  | c :: r =>
    if c = ')' && opened = 0 then some ([], c :: r)
    else if isTargetStop c then
      if opened = 0 && isLabelBlank c then some ([], c :: r) else none
    else if c = '(' then
      if opened < maxParens then (bare? (opened + 1) r).map fun (s, rest) => (c :: s, rest)
      else none
    else if c = ')' then (bare? (opened - 1) r).map fun (s, rest) => (c :: s, rest)
    else (bare? opened r).map fun (s, rest) => (c :: s, rest)

/-- The target that a text starts with, as written. -/
def target? : Text → Option (Text × Text)
  | '<' :: r => enclosed? r
  | c :: r => if isTargetStop c || c = ')' then none else bare? 0 (c :: r)
  | [] => none

/-- The characters of a title up to its closing mark. `atBreak` tells whether only blanks stand
before on the line: a title has no blank line. -/
def titleBody? (mark : Char) (atBreak : Bool) : Text → Option (Text × Text)
  | [] => none
  | '\\' :: c :: r =>
    if c = mark || c = '\\' then
      (titleBody? mark false r).map fun (s, rest) => ('\\' :: c :: s, rest)
    else (titleBody? mark false (c :: r)).map fun (s, rest) => ('\\' :: s, rest)
  | '\r' :: '\n' :: r =>
    if atBreak then none
    else (titleBody? mark true r).map fun (s, rest) => ('\r' :: '\n' :: s, rest)
  | c :: r =>
    if c = mark then some ([], r)
    else if c = '\n' || c = '\r' then
      if atBreak then none else (titleBody? mark true r).map fun (s, rest) => (c :: s, rest)
    else
      (titleBody? mark (atBreak && Line.isIndent c) r).map fun (s, rest) => (c :: s, rest)

/-- The title that a text starts with, as written. -/
def title? : Text → Option (Text × Text)
  | '"' :: r => titleBody? '"' false r
  | '\'' :: r => titleBody? '\'' false r
  | '(' :: r => titleBody? ')' false r
  | _ => none

/-- A text without the blanks at its start, which hold at most one line end. -/
def skipSpace (s : Text) : Text :=
  let r := s.dropWhile Line.isIndent
  let r' := match r with
    | '\r' :: '\n' :: t => t
    | c :: t => if isLineEnd c then t else r
    | [] => []
  r'.dropWhile Line.isIndent

/-- The target in parentheses that a text goes on with after `(`. -/
def resource? (s : Text) : Option (Target × Text) :=
  match skipSpace s with
  | ')' :: rest => some (⟨[], none⟩, rest)
  | r =>
    match target? r with
    | none => none
    | some (url, r) =>
      let t := skipSpace r
      match t with
      | ')' :: rest => some (⟨unescape url, none⟩, rest)
      | _ =>
        if t.length = r.length then none
        else
          match title? t with
          | none => none
          | some (title, r) =>
            match skipSpace r with
            | ')' :: rest => some (⟨unescape url, some (unescape title)⟩, rest)
            | _ => none

/-- What follows the end of a line, if only blanks stand before the end. -/
def afterLineEnd? (s : Text) : Option Text :=
  match s.dropWhile Line.isIndent with
  | [] => some []
  | '\r' :: '\n' :: r => some r
  | c :: r => if isLineEnd c then some r else none

/-- The definition that a text starts with. -/
def definition? (s : Text) : Option (Definition × Text) := do
  let (label, r) ← label? (s.dropWhile Line.isIndent)
  let r ← after? [':'] r
  let (url, r) ← target? (skipSpace r)
  let t := skipSpace r
  let titled := do
    if t.length = r.length then none
    let (title, r) ← title? t
    let rest ← afterLineEnd? r
    return (title, rest)
  match titled with
  | some (title, rest) =>
    return (⟨normalizeLabel label, ⟨unescape url, some (unescape title)⟩⟩, rest)
  | none =>
    let rest ← afterLineEnd? r
    return (⟨normalizeLabel label, ⟨unescape url, none⟩⟩, rest)

/-- The definitions at the start of a text, and the number of characters that they take; `fuel`
bounds the number of definitions. -/
def definitionsWithin (size : Nat) : Nat → Text → List Definition × Nat
  | 0, s => ([], size - s.length)
  | fuel + 1, s =>
    match definition? s with
    | some (d, rest) =>
      let (ds, n) := definitionsWithin size fuel rest
      (d :: ds, n)
    | none => ([], size - s.length)

/-- The definitions at the start of a content, and the content after them. -/
def readDefinitions (c : Content) : List Definition × Content :=
  let s := c.text
  let (ds, n) := definitionsWithin s.length s.length s
  if n = s.length && !ds.isEmpty then (ds, []) else (ds, c.drop n)

/-- What a label stands for; the first definition counts. -/
def lookUp (ds : List Definition) (label : Text) : Option Target :=
  (ds.find? fun d => d.label = normalizeLabel label).map (·.target)

end DocPreview.Markup
