import DocPreview.Yaml.Problem

/-!
# Tokens of YAML

What a text in YAML is made of, and a cursor that goes over its characters and counts lines and
columns.
-/

namespace DocPreview.Yaml

/-- How a scalar is written. -/
inductive ScalarStyle where
  | plain
  | quoted
  | block
  deriving Repr, DecidableEq

/-- A token without its place. -/
inductive TokenKind where
  | streamEnd
  | version (major minor : Nat)
  | tagHandle (handle start : Text)
  | documentStart
  | documentEnd
  | blockSequenceStart
  | blockMappingStart
  | blockEnd
  | flowSequenceStart
  | flowSequenceEnd
  | flowMappingStart
  | flowMappingEnd
  | blockEntry
  | flowEntry
  | key
  | value
  | aliasName (name : Text)
  | anchor (name : Text)
  /-- A tag with the handle that stands for its start, which is empty for a whole tag. -/
  | tag (handle suffix : Text)
  | scalar (value : Text) (style : ScalarStyle)
  deriving Repr, DecidableEq, Inhabited

/-- A token with its place. -/
structure Token where
  kind : TokenKind
  start : Mark
  stop : Mark
  deriving Repr, DecidableEq, Inhabited

/-! ### Characters -/

/-- Whether a character ends a line. -/
def isBreak (c : Char) : Bool :=
  c = '\r' || c = '\n' || c.toNat = 0x85 || c.toNat = 0x2028 || c.toNat = 0x2029

/-- Whether a character is a blank or a tab. -/
def isBlankChar (c : Char) : Bool := c = ' ' || c = '\t'

/-- Whether a character can stand in the name of an anchor. -/
def isWordChar (c : Char) : Bool := c.isAlphanum || c = '_' || c = '-'

/-- Whether a character is allowed in a text. -/
def isAllowed (c : Char) : Bool :=
  let n := c.toNat
  n = 0x09 || n = 0x0A || n = 0x0D || (0x20 ≤ n && n ≤ 0x7E) || n = 0x85 ||
    (0xA0 ≤ n && n ≤ 0xD7FF) || (0xE000 ≤ n && n ≤ 0xFFFD && n ≠ 0xFEFF) || 0x10000 ≤ n

/-! ### Cursors -/

/-- A place in a text with the rest of the text. -/
structure Cursor where
  rest : Text
  mark : Mark
  deriving Repr, DecidableEq

namespace Cursor

/-- The start of a text. -/
def ofText (s : Text) : Cursor := ⟨s, Mark.start⟩

/-- The next character. -/
def head? (c : Cursor) : Option Char := c.rest.head?

/-- The next character but `n`. -/
def peek? (c : Cursor) (n : Nat) : Option Char := (c.rest.drop n).head?

/-- Whether the next character but `n` is the given one. -/
def isAt (c : Cursor) (n : Nat) (ch : Char) : Bool := c.peek? n = some ch

/-- Whether the next character is the given one. -/
def is (c : Cursor) (ch : Char) : Bool := c.head? = some ch

/-- Whether the next character is one of some. -/
def isOneOf (c : Cursor) (chs : List Char) : Bool := c.head?.any chs.contains

/-- Whether a blank or a tab comes next. -/
def isBlank (c : Cursor) : Bool := c.head?.any isBlankChar

/-- Whether a line ends here. -/
def isBreakNext (c : Cursor) : Bool := c.head?.any isBreak

/-- Whether a line or the text ends here. -/
def isBreakOrEnd (c : Cursor) : Bool := c.head?.all isBreak

/-- Whether the next character but `n` is no part of a word: white space or the end. -/
def isSpaceAt (c : Cursor) (n : Nat) : Bool :=
  (c.peek? n).all fun ch => isBlankChar ch || isBreak ch

/-- Passes over one character. -/
def skip (c : Cursor) : Cursor :=
  ⟨c.rest.tail, ⟨c.mark.index + 1, c.mark.line, c.mark.column + 1⟩⟩

/-- Passes over some characters. -/
def skipMany (c : Cursor) (n : Nat) : Cursor := n.fold (fun _ _ c => c.skip) c

/-- Passes over characters with a property. -/
def skipWhile (p : Char → Bool) (c : Cursor) : Cursor :=
  c.skipMany (c.rest.takeWhile p).length

/-- The characters with a property, and the cursor behind them. -/
def takeWhile (p : Char → Bool) (c : Cursor) : Text × Cursor :=
  (c.rest.takeWhile p, c.skipWhile p)

/-- Passes over a line end, if there is one. -/
def skipLine (c : Cursor) : Cursor :=
  match c.rest with
  | '\r' :: '\n' :: r => ⟨r, ⟨c.mark.index + 2, c.mark.line + 1, 0⟩⟩
  | ch :: r => if isBreak ch then ⟨r, ⟨c.mark.index + 1, c.mark.line + 1, 0⟩⟩ else c
  | [] => c

/-- The line end that comes next, with the usual ones as a line feed. -/
def lineText (c : Cursor) : Text :=
  match c.rest with
  | ch :: _ =>
    if ch.toNat = 0x2028 || ch.toNat = 0x2029 then [ch] else if isBreak ch then ['\n'] else []
  | [] => []

/-- Passes over a comment. -/
def skipComment (c : Cursor) : Cursor := if c.is '#' then c.skipWhile (!isBreak ·) else c

/-- Whether a document indicator stands at the start of a line here. -/
def isDocumentMark (c : Cursor) (ch : Char) : Bool :=
  c.mark.column = 0 && c.isAt 0 ch && c.isAt 1 ch && c.isAt 2 ch && c.isSpaceAt 3

/-- Whether any document indicator stands here. -/
def isDocumentEdge (c : Cursor) : Bool := c.isDocumentMark '-' || c.isDocumentMark '.'

end Cursor

/-- A failure at the place of a cursor. -/
def Cursor.failure (c : Cursor) (problem : Problem) (reading : Option (Activity × Mark)) :
    Failure :=
  ⟨problem, c.mark, 0, reading⟩

end DocPreview.Yaml
