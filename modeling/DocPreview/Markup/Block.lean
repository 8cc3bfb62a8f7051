import DocPreview.Markup.Reference
import DocPreview.Markup.Tree

/-!
# Blocks

A document is a sequence of blocks; quotes, the items of lists and notes hold blocks themselves.
Which block a line belongs to or starts is told by how the line starts. Any number of blanks can
stand before: no block is made by indentation alone.

## Main definitions

* `Container`, `Block`: the blocks of a document.
* `headingLine?`, `isRule`, `CodeFence.opening?`, `underline?`: lines that are or start a block.
* `Container.opening?`, `Container.continue?`: the marks of containers at the start of a line.
-/

namespace DocPreview.Markup

open Text

/-- What holds other blocks. -/
inductive ContainerKind where
  | quote
  /-- An item of a list: its mark, and its number if the list is ordered. -/
  | item (mark : Char) (number : Option Nat)
  | note (label : Text)
  deriving Repr, DecidableEq

/-- A container that has been started. -/
structure Container where
  kind : ContainerKind
  /-- The columns that further lines of it start with. -/
  size : Nat
  /-- Whether it has started with a blank and nothing has followed. -/
  isBare : Bool
  start : Point
  deriving Repr

/-- A row of a table. -/
structure Row where
  start : Point
  stop : Point
  cells : List Content

/-- A block. -/
inductive Block where
  /-- A blank line, which can loosen a list. -/
  | blank
  | paragraph (content : Content)
  | heading (depth : Nat) (isUnderlined : Bool) (content : Content) (start stop : Point)
  | rule
  | code (language : Option Text) (value : Text)
  | table (alignments : List (Option Alignment)) (rows : List Row)
  /-- A tag or an expression that stands on lines of its own. -/
  | piece (p : Piece)
  | module (items : List Script.Node) (source : Content)
  | container (c : Container) (stop : Point) (children : List Block)

/-! ### Lines that are blocks -/

/-- The content of a heading after its marks: without blanks at the ends and without closing
marks, which follow a blank. -/
def headingContent (l : Line) : Line :=
  let l := l.trimmed
  let kept := dropEndWhile Line.isIndent l.text
  let body := dropEndWhile (· = '#') kept
  let isClosed := body.length < kept.length && (body.isEmpty || body.getLast?.any Line.isIndent)
  { l with text := if isClosed then dropEndWhile Line.isIndent body else kept }

/-- The depth and the content of the heading that a line is. -/
def headingLine? (l : Line) : Option (Nat × Line) :=
  let t := l.trimmed
  let depth := (t.text.takeWhile (· = '#')).length
  let rest := t.drop depth
  if 1 ≤ depth && depth ≤ 6 && (rest.text.isEmpty || rest.text.head?.any Line.isIndent) then
    some (depth, headingContent rest)
  else none

/-- Whether a line is a rule between paragraphs: three or more equal marks. -/
def isRule (l : Line) : Bool :=
  let marks := l.text.filter fun c => !Line.isIndent c
  match marks with
  | m :: _ => (m = '*' || m = '-' || m = '_') && 3 ≤ marks.length && marks.all (· = m)
  | [] => false

/-- The depth of the heading that a line underlines. -/
def underline? (l : Line) : Option Nat :=
  match dropEndWhile Line.isIndent l.trimmed.text with
  | m :: r =>
    if (m = '=' || m = '-') && r.all (· = m) then some (if m = '=' then 1 else 2) else none
  | [] => none

/-- The line that opens a block of code. -/
structure CodeFence where
  mark : Char
  size : Nat
  /-- The columns before the marks. -/
  indent : Nat
  language : Option Text
  deriving Repr

namespace CodeFence

/-- The fence that a line is. -/
def opening? (l : Line) : Option CodeFence :=
  let t := l.trimmed
  match t.text with
  | m :: _ =>
    let size := (t.text.takeWhile (· = m)).length
    let info := trimIndent (t.text.drop size)
    if (m = '\x60' || m = '~') && 3 ≤ size && !(m = '\x60' && info.contains '\x60') then
      let language := info.takeWhile fun c => !Line.isIndent c
      some ⟨m, size, l.indent, if language.isEmpty then none else some (unescape language)⟩
    else none
  | [] => none
where
  /-- A text without blanks and tabs at both ends. -/
  trimIndent (s : Text) : Text := dropEndWhile Line.isIndent (s.dropWhile Line.isIndent)

/-- Whether a line closes a block of code. -/
def isClosedBy (f : CodeFence) (l : Line) : Bool :=
  let s := l.trimmed.text
  let rest := s.dropWhile (· = f.mark)
  f.size ≤ s.length - rest.length && rest.all Line.isIndent

/-- The code that lines hold. -/
def code (f : CodeFence) (ls : List Line) : Text :=
  Content.text (ls.map fun l => l.dropIndent f.indent)

end CodeFence

/-- Whether a line can start a block of imports and exports. -/
def startsModule (l : Line) : Bool :=
  l.start.column = 1 &&
    ((after? "import ".toList l.text).isSome || (after? "export ".toList l.text).isSome)

/-! ### Tables -/

/-- The ends of the cells of a row, by number of characters. -/
def cellEnds (start index : Nat) : Text → List (Nat × Nat)
  | [] => [(start, index)]
  | '\\' :: c :: r =>
    if c = '\\' || c = '|' then cellEnds start (index + 2) r
    else cellEnds start (index + 1) (c :: r)
  | c :: r =>
    if c = '|' then (start, index) :: cellEnds (index + 1) (index + 1) r
    else cellEnds start (index + 1) r

/-- The text of a cell. -/
def cellLine (l : Line) (span : Nat × Nat) : Line :=
  let cell := { l with text := l.text.take span.2, ending := [] }
  let cell := (cell.drop span.1).trimmed
  { cell with text := dropEndWhile Line.isIndent cell.text }

/-- The cells of a row. A pipe at either end of the line bounds no further cell. -/
def rowCells (l : Line) : List Line :=
  let l := l.trimmed
  let l := { l with text := dropEndWhile Line.isIndent l.text }
  let ends := match l.text with
    | '|' :: r => cellEnds 1 1 r
    | s => cellEnds 0 0 s
  let cells := ends.map (cellLine l)
  match cells.getLast? with
  | some last => if last.text.isEmpty then cells.dropLast else cells
  | none => cells

/-- The row that a line is. -/
def rowOf (l : Line) : Row :=
  ⟨l.trimmed.start, l.stop, (rowCells l).map fun c => [c]⟩

/-- The alignment that a cell of the second row of a table asks for. -/
def alignment? (s : Text) : Option (Option Alignment) :=
  let (left, r) := match s with
    | ':' :: r => (true, r)
    | r => (false, r)
  let marks := r.takeWhile (· = '-')
  match marks, r.drop marks.length with
  | [], _ => none
  | _, [] => some (if left then some .left else none)
  | _, [':'] => some (some (if left then .center else .right))
  | _, _ => none

/-- The alignments that a line gives as the second row of a table. -/
def alignments? (l : Line) : Option (List (Option Alignment)) :=
  if l.text.contains '|' || l.text.contains ':' then
    match (rowCells l).mapM fun c => alignment? c.text with
    | some [] => none
    | found => found
  else none

/-- The number of cells of a line as the first row of a table, if it can be one. -/
def headWidth? (l : Line) : Option Nat :=
  match rowCells l with
  | [] => none
  | cells => some cells.length

/-! ### Containers -/

/-- What is left of a line after the mark of a quote. -/
def quoteMark? (l : Line) : Option Line :=
  let t := l.trimmed
  match t.text with
  | '>' :: _ => some ((t.drop 1).dropIndent 1)
  | _ => none

/-- The mark of an item: its last character, its number, and the number of its characters. -/
def itemMark? (s : Text) : Option (Char × Option Nat × Nat) :=
  match s with
  | c :: r =>
    if c = '*' || c = '-' || c = '+' then some (c, none, 1)
    else
      let digits := (c :: r).takeWhile Char.isDigit
      match (c :: r).drop digits.length with
      | m :: _ =>
        if 1 ≤ digits.length && digits.length ≤ 9 && (m = '.' || m = ')') then
          some (m, some (digits.foldl (fun n d => 10 * n + (d.toNat - 48)) 0), digits.length + 1)
        else none
      | [] => none
  | [] => none

/-- Whether an item can start inside a paragraph: it starts with `1` if it is numbered. -/
def canInterrupt (s : Text) (number : Option Nat) : Bool :=
  match number with
  | none => true
  | some _ => s.head? = some '1' && (s.drop 1).head?.any (!Char.isDigit ·)

/-- The item that a line starts, and what is left of the line. `interrupts` tells whether the line
would otherwise go on with a paragraph. -/
def itemStart? (interrupts : Bool) (l : Line) : Option (Container × Line) := do
  let t := l.trimmed
  let (mark, number, n) ← itemMark? t.text
  if (mark = '*' || mark = '-') && isRule l then none
  if interrupts && !canInterrupt t.text number then none
  let rest := t.drop n
  if rest.isBlank then
    if interrupts then none
    let size := l.indent + n + 1
    return (⟨.item mark number, size, true, l.start⟩, { rest with text := [] })
  let width := rest.indent
  if width = 0 then none
  let taken := if width ≤ 4 then width else 1
  return (⟨.item mark number, l.indent + n + taken, false, l.start⟩, rest.dropIndent taken)

/-- The note that a line starts, and what is left of the line. -/
def noteStart? (l : Line) : Option (Container × Line) := do
  let t := l.trimmed
  let r ← after? ['[', '^'] t.text
  let (label, rest) ← labelBody? r
  if label.isEmpty || maxLabelLength < label.length || label.any isLabelBlank then none
  let after ← after? [':'] rest
  let n := t.text.length - after.length
  return (⟨.note label, 4, false, l.start⟩, (t.drop n).trimmed)

/-- The container that a line starts, and what is left of the line. -/
def Container.opening? (interrupts : Bool) (l : Line) : Option (Container × Line) :=
  match quoteMark? l with
  | some rest => some (⟨.quote, 0, false, l.start⟩, rest)
  | none =>
    match itemStart? interrupts l with
    | some found => some found
    | none => noteStart? l

/-- What is left of a line that goes on with a container, and the container afterwards. -/
def Container.continue? (c : Container) (l : Line) : Option (Container × Line) :=
  match c.kind with
  | .quote => (quoteMark? l).map fun rest => (c, rest)
  | _ =>
    if l.isBlank then
      if c.isBare then none else some (c, l.dropIndent c.size)
    else if c.size ≤ l.indent then some ({ c with isBare := false }, l.dropIndent c.size)
    else none

end DocPreview.Markup
