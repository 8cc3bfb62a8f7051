import DocPreview.Markup.Emphasis
import DocPreview.Markup.Reference

/-!
# The text of a document

The contents of paragraphs, headings and cells: emphasis, code, links and images, calls of notes,
addresses, line breaks, and the tags and expressions among them.

## Main definitions

* `Labels`: the labels that the whole document explains.
* `Content.pieces`: the pieces of a content.
-/

namespace DocPreview.Markup

open Text
open Script (Cursor)

/-- The labels that a document explains. -/
structure Labels where
  definitions : List Definition
  /-- The labels of notes. -/
  notes : List Text
  deriving Repr

namespace Inline

/-- A content that is read, with what its labels mean. -/
structure Source where
  content : Content
  text : Text
  labels : Labels
  /-- Whether it is a cell of a table, where a pipe in code has a backslash before it. -/
  isCell : Bool

/-- The place of a character. -/
def Source.at (s : Source) (n : Nat) : Point := s.content.pointAt n

/-- The place of the end. -/
def Source.stop (s : Source) : Point := s.at s.text.length

/-- The tokens after reading something, the latest first, and the number of characters read. -/
abbrev Step := List Token × Nat

/-- The code between runs of backticks: what stands before the closing run of `n`, with the number
of characters up to its end. `here` counts the backticks just before. -/
def codeBody? (n : Nat) (here : Nat) : Text → Option (Text × Nat)
  | [] => if here = n then some ([], 0) else none
  | c :: r =>
    if c = '\x60' then (codeBody? n (here + 1) r).map fun (s, k) => (c :: s, k + 1)
    else if here = n then some ([], 0)
    else (codeBody? n 0 r).map fun (s, k) => (c :: s, k + 1)

/-- Whether a character pads code. -/
def isPadding (c : Char) : Bool := c = ' ' || isLineEnd c

/-- Code without the one blank at each end, if there are two and something else. -/
def trimPadding (s : Text) : Text :=
  if s.head?.any isPadding && s.getLast?.any isPadding && s.any (!isPadding ·) then
    let drop (t : Text) : Text :=
      match t with
      | '\r' :: '\n' :: r => r
      | _ :: r => r
      | [] => []
    let dropLast (t : Text) : Text :=
      match t.reverse with
      | '\n' :: '\r' :: r => r.reverse
      | _ :: r => r.reverse
      | [] => []
    dropLast (drop s)
  else s

/-- A text without the backslashes before pipes. -/
def unescapePipes : Text → Text
  | '\\' :: '|' :: r => '|' :: unescapePipes r
  | c :: r => c :: unescapePipes r
  | [] => []

/-- Reads a run of backticks and the code that it starts. -/
def readCode (isCell : Bool) (s : Text) (out : List Token) : Step :=
  let n := (s.takeWhile (· = '\x60')).length
  match codeBody? n 0 (s.drop n) with
  | some (body, k) =>
    let code := trimPadding (body.take (k - n))
    (.piece (.leaf (.inlineCode (if isCell then unescapePipes code else code))) :: out, n + k)
  | none => (Token.addData (s.take n) out, n)

/-- Reads the end of a line: blanks before it go, and two of them make a break. -/
def readLineEnd (s : Text) (out : List Token) : Step :=
  let ending := if s.take 2 = ['\r', '\n'] then 2 else 1
  let indent := ((s.drop ending).takeWhile Line.isIndent).length
  let (blanks, kept) : Text × List Token :=
    match out with
    | .data t :: rest =>
      let kept := t.dropWhile Line.isIndent
      (t.takeWhile Line.isIndent, if kept.isEmpty then rest else .data kept :: rest)
    | _ => ([], out)
  if 2 ≤ blanks.length && blanks.all (· = ' ') then
    (.piece (.leaf .lineBreak) :: kept, ending + indent)
  else (Token.addData (s.take ending) kept, ending + indent)

/-- Reads a backslash. -/
def readBackslash (s : Text) (out : List Token) : Step :=
  match s.drop 1 with
  | c :: r =>
    if isAsciiPunctuation c then (.literal [c] :: out, 2)
    else if isLineEnd c then
      let ending := if c = '\r' && r.head? = some '\n' then 2 else 1
      let indent := (((c :: r).drop ending).takeWhile Line.isIndent).length
      (.piece (.leaf .lineBreak) :: out, 1 + ending + indent)
    else (Token.addData ['\\'] out, 1)
  | [] => (Token.addData ['\\'] out, 1)

/-- Reads a `<` and the tag that it starts. -/
def readTag (src : Source) (index : Nat) (s : Text) (out : List Token) : Except Failure Step :=
  match Tag.scan ⟨s, index⟩ with
  | .ok (t, next) => .ok (.piece (.tag (t.map src.at)) :: out, next.pos - index)
  | .error .notTag | .error .endsInTag => .ok (Token.addData ['<'] out, 1)
  | .error (.failed i p) => .error (Failure.at (src.at i) p)
  | .error (.endsInExpression p) => .error (Failure.at src.stop p)

/-- Reads an expression between braces. -/
def readBraces (src : Source) (index : Nat) (s : Text) (out : List Token) : Except Failure Step :=
  match scanExpression .content ⟨s.drop 1, index + 1⟩ with
  | .ok (value, next) => .ok (.piece (.leaf (.expression value)) :: out, next.pos - index)
  | .error (.failed i p) => .error (Failure.at (src.at i) p)
  | .error (.endsInExpression p) => .error (Failure.at src.stop p)
  | .error .notTag | .error .endsInTag => .ok (Token.addData ['\x7b'] out, 1)

/-- An address as a link. -/
def addressLink (src : Source) (index : Nat) (before shown : Text) : Token :=
  .piece (.group (.link (before ++ shown) none) (src.at index) (src.at (index + shown.length))
    [.leaf (.text shown)])

/-- Reads a letter that may start an address. -/
def readLetter (src : Source) (previous : Option Char) (index : Nat) (s : Text)
    (out : List Token) : Step :=
  match Autolink.protocolLink? previous s with
  | some n => (addressLink src index [] (s.take n) :: out, n)
  | none =>
    match Autolink.wwwLink? previous s with
    | some n => (addressLink src index "http://".toList (s.take n) :: out, n)
    | none => (Token.addData (s.take 1) out, 1)

/-- The tokens after the last opening bracket, the bracket, and the tokens before it. -/
def splitAtOpener : List Token → Option (List Token × Opener × List Token)
  | [] => none
  | .opener o :: rest => some ([], o, rest)
  | t :: rest => (splitAtOpener rest).map fun (inner, o, before) => (t :: inner, o, before)

/-- Tokens whose open brackets start no links any more. -/
def deactivate (tokens : List Token) : List Token :=
  tokens.map fun
    | .opener o => .opener (if o.kind = .image then o else { o with isActive := false })
    | t => t

mutual

/-- The text that a piece shows. -/
def shownText : Piece → Text
  | .leaf (.text s) | .leaf (.inlineCode s) => s
  | .leaf (.image _ _ alt) => alt
  | .leaf _ | .tag _ => []
  | .group _ _ _ children => shownTexts children

/-- The text that pieces show. -/
def shownTexts : List Piece → Text
  | [] => []
  | p :: ps => shownText p ++ shownTexts ps

end

mutual

/-- The pieces that a piece is inside a link, where addresses are no links. -/
def withoutLink : Piece → List Piece
  | .group (.link _ _) _ _ children => withoutLinks children
  | .group g start stop children => [.group g start stop (withoutLinks children)]
  | p => [p]

/-- Pieces inside a link. -/
def withoutLinks : List Piece → List Piece
  | [] => []
  | p :: ps => withoutLink p ++ withoutLinks ps

end

/-- The target that follows a closing bracket, and the number of characters that it takes. `own`
is the target of the text between the brackets. -/
def targetAfter? (ds : List Definition) (own : Option Target) (s : Text) : Option (Target × Nat) :=
  let shortcut := own.map fun t => (t, 0)
  match s with
  | '(' :: r =>
    match resource? r with
    | some (t, rest) => some (t, s.length - rest.length)
    | none => shortcut
  | '[' :: r =>
    let full := do
      let (label, rest) ← label? s
      let t ← lookUp ds label
      return (t, s.length - rest.length)
    match full with
    | some found => some found
    | none => if r.head? = some ']' then own.map fun t => (t, 2) else shortcut
  | _ => shortcut

/-- Reads a closing bracket. -/
def readCloser (src : Source) (index : Nat) (s : Text) (out : List Token) : Step :=
  match splitAtOpener out with
  | none => (Token.addData [']'] out, 1)
  | some (inner, o, before) =>
    let loose : Step :=
      (Token.addData [']'] (inner.foldr (fun t acc => Token.add acc t)
        (Token.addData o.text before)), 1)
    if !o.isActive then loose
    else
      let from_ := o.start + o.text.length
      let label := (src.text.drop from_).take (index - from_)
      let isNote := o.kind = .note
      if isNote && src.labels.notes.contains (normalizeLabel label) then
        (.piece (.leaf (.noteCall label)) :: deactivate before, 1)
      else
        let label := if isNote then '^' :: label else label
        let inner := if isNote then inner ++ [.data ['^']] else inner
        let ds := src.labels.definitions
        match targetAfter? ds (lookUp ds label) (s.drop 1) with
        | none => loose
        | some (t, n) =>
          let pieces := Token.pieces false src.at inner
          if o.kind = .image then
            (.piece (.leaf (.image t.url t.title (shownTexts pieces))) :: before, n + 1)
          else
            let group := Piece.group (.link t.url t.title) (src.at o.start) (src.at (index + n + 1))
              (withoutLinks pieces)
            (.piece group :: deactivate before, n + 1)

/-- Reads what starts at a character. -/
def step (src : Source) (previous : Option Char) (index : Nat) (c : Char) (r : Text)
    (out : List Token) : Except Failure Step :=
  let s := c :: r
  let data : Except Failure Step := .ok (Token.addData [c] out, 1)
  let opener (kind : OpenerKind) (n : Nat) : Except Failure Step :=
    .ok (.opener ⟨kind, index, true⟩ :: out, n)
  if c = '\\' then .ok (readBackslash s out)
  else if c = '&' then
    match Entity.reference? r with
    | some (cs, rest) => .ok (.literal cs :: out, r.length + 1 - rest.length)
    | none => data
  else if c = '\x60' then .ok (readCode src.isCell s out)
  else if c = '*' || c = '_' || c = '~' then
    let n := (s.takeWhile (· = c)).length
    .ok (.run (Run.of c n index previous (s.drop n).head?) :: out, n)
  else if c = '!' then
    match r with
    | '[' :: d :: _ => if d = '^' then data else opener .image 2
    | '[' :: [] => opener .image 2
    | _ => data
  else if c = '[' then
    if r.head? = some '^' then opener .note 2 else opener .link 1
  else if c = ']' then .ok (readCloser src index s out)
  else if c = '<' then readTag src index s out
  else if c = '\x7b' then readBraces src index s out
  else if c = 'h' || c = 'H' || c = 'w' || c = 'W' then
    .ok (readLetter src previous index s out)
  else if isLineEnd c then .ok (readLineEnd s out)
  else data

/-- The tokens of a text, the latest first. The first argument counts the characters that have been
read, and `out` holds the tokens before. -/
def tokens (src : Source) :
    Nat → Option Char → Nat → (out : List Token) → Text → Except Failure (List Token)
  | _, _, _, out, [] => .ok out
  | n + 1, _, index, out, c :: r => tokens src n (some c) (index + 1) out r
  | 0, previous, index, out, c :: r => do
    let (out', n) ← step src previous index c r out
    tokens src (n - 1) (some c) (index + 1) out' r

/-- Tokens without the blanks at the end. -/
def trimLast : List Token → List Token
  | .data t :: rest =>
    let kept := t.dropWhile Line.isIndent
    if kept.isEmpty then rest else .data kept :: rest
  | tokens => tokens

/-- The check of a task at the start of a text, and the number of characters that it takes. -/
def taskCheck? (s : Text) : Option (Bool × Nat) :=
  match s with
  | '[' :: c :: ']' :: d :: r =>
    let checked :=
      if c = 'x' || c = 'X' then some true
      else if c = ' ' || c = '\t' || isLineEnd c then some false
      else none
    let follows := isLineEnd d || (Line.isIndent d && !(r.all Line.isIndent))
    if follows then checked.map fun b => (b, 3) else none
  | _ => none

end Inline

/-- The pieces of the text of a content from a character on. -/
def Content.piecesFrom (labels : Labels) (isCell : Bool) (n : Nat) (c : Content) :
    Except Failure (List Piece) := do
  let src : Inline.Source := ⟨c, c.text, labels, isCell⟩
  let rest := src.text.drop n
  let indent := if n = 0 then (rest.takeWhile Line.isIndent).length else 0
  let previous := if n + indent = 0 then none else src.text[n + indent - 1]?
  let tokens ← Inline.tokens src 0 previous (n + indent) [] (rest.drop indent)
  return Token.pieces true src.at (Inline.trimLast tokens)

/-- The pieces of a content. -/
def Content.pieces (labels : Labels) (c : Content) : Except Failure (List Piece) :=
  c.piecesFrom labels false 0

end DocPreview.Markup
