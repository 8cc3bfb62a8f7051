import DocPreview.Text.Basic
import DocPreview.Text.Unicode

/-!
# Lines of a document

A document is read line by line. What containers leave of a line still knows the place where it
starts, so that a failure can name it. Columns count bytes from one; a tab goes to the next
multiple of four.

## Main definitions

* `Point`: a place in a document.
* `Line`: a line, or what is left of it.
* `Line.split`: the lines of a text.
* `Content`: lines that are read as one text, and the places of its characters.
-/

namespace DocPreview.Markup

/-- A place in a document. -/
structure Point where
  line : Nat
  column : Nat
  deriving Repr, DecidableEq, Inhabited

/-- The place after a character that ends no line. -/
def Point.after (p : Point) (c : Char) : Point :=
  if c = '\t' then { p with column := ((p.column - 1) / 4 + 1) * 4 + 1 }
  else { p with column := p.column + c.utf8Size }

/-- The place after characters that end no line. -/
def Point.afterAll (p : Point) (s : Text) : Point := s.foldl Point.after p

/-- A place as `line:column`. -/
def Point.text (p : Point) : String := toString p.line ++ ":" ++ toString p.column

/-- What is left of a line. -/
structure Line where
  /-- The characters before the end of the line. -/
  text : Text
  /-- The characters that end the line. -/
  ending : Text
  start : Point
  /-- Whether the line lacks what a container around it asks for. -/
  isLazy : Bool
  deriving Repr, Inhabited

namespace Line

/-- The place of the end of a line. -/
def stop (l : Line) : Point := l.start.afterAll l.text

/-- A line without some of its characters. -/
def drop (l : Line) (n : Nat) : Line :=
  { l with text := l.text.drop n, start := l.start.afterAll (l.text.take n) }

/-- Blanks and tabs. -/
def isIndent (c : Char) : Bool := c = ' ' || c = '\t'

/-- Whether only blanks and tabs are left. -/
def isBlank (l : Line) : Bool := l.text.all isIndent

/-- The columns that the blanks and tabs at the start take. -/
def indent (l : Line) : Nat :=
  (l.start.afterAll (l.text.takeWhile isIndent)).column - l.start.column

/-- Removes blanks and tabs that take up to `n` columns. A tab that takes more is left as
blanks. -/
def dropColumns : Nat → Text → Point → Text × Point
  | n, ' ' :: r, p => if n = 0 then (' ' :: r, p) else dropColumns (n - 1) r (p.after ' ')
  | n, '\t' :: r, p =>
    let width := (p.after '\t').column - p.column
    if n = 0 then ('\t' :: r, p)
    else if width ≤ n then dropColumns (n - width) r (p.after '\t')
    else (List.replicate (width - n) ' ' ++ r, { p with column := p.column + n })
  | _, s, p => (s, p)

/-- A line without up to `n` columns of blanks and tabs at its start. -/
def dropIndent (l : Line) (n : Nat) : Line :=
  let (text, start) := dropColumns n l.text l.start
  { l with text := text, start := start }

/-- A line without the blanks and tabs at its start. -/
def trimmed (l : Line) : Line := l.drop (l.text.takeWhile isIndent).length

/-- The lines of a text from a line number on; `text` holds the characters of the line so far, the
last one first. The text after the last line end is a line too. -/
def splitFrom (number : Nat) (text : Text) : Text → List Line
  | [] => [⟨text.reverse, [], ⟨number, 1⟩, false⟩]
  | '\r' :: '\n' :: r =>
    ⟨text.reverse, ['\r', '\n'], ⟨number, 1⟩, false⟩ :: splitFrom (number + 1) [] r
  | c :: r =>
    if c = '\n' || c = '\r' then
      ⟨text.reverse, [c], ⟨number, 1⟩, false⟩ :: splitFrom (number + 1) [] r
    else splitFrom number (c :: text) r

/-- The lines of a text. A byte order mark at its start is no part of it. -/
def split : Text → List Line
  | '\uFEFF' :: r => splitFrom 1 [] r
  | s => splitFrom 1 [] s

end Line

/-- Lines that are read as one text, without the end of the last one. -/
abbrev Content := List Line

namespace Content

/-- The text of a content. -/
def text : Content → Text
  | [] => []
  | [l] => l.text
  | l :: ls => l.text ++ l.ending ++ text ls

/-- The place of the character with a given number. -/
def pointAt : Content → Nat → Point
  | [], _ => ⟨1, 1⟩
  | [l], n => l.start.afterAll (l.text.take n)
  | l :: ls, n =>
    if n ≤ l.text.length then l.start.afterAll (l.text.take n)
    else pointAt ls (n - l.text.length - l.ending.length)

/-- The content from the character with a given number on. -/
def drop : Content → Nat → Content
  | [], _ => []
  | [l], n => [l.drop n]
  | l :: ls, n =>
    if n ≤ l.text.length then l.drop n :: ls
    else drop ls (n - l.text.length - l.ending.length)

end Content

end DocPreview.Markup
