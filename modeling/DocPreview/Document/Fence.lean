import DocPreview.Text.Basic

/-!
# Fenced code in a document

A document alternates between markup and fenced code. A fence opens at a line that starts, after
white space, with at least three equal backticks or tildes, and closes at the first later line
that holds, between white space, only a run of the same character that is at least as long. A
fence that is never closed runs to the end of the text.

`Document.segments` reads a text as such a sequence. The text is the concatenation of the pieces,
and the line that closes a fence leaves its trailing white space and its line break to the markup
that follows.
-/

namespace DocPreview.Document

open Text

/-- The line that opens a fence. -/
structure Opening where
  /-- The white space before the marker run. -/
  indent : Text
  /-- The character of the marker run. -/
  marker : Char
  /-- The length of the marker run. -/
  size : Nat
  /-- What follows the marker run, trimmed. -/
  info : Text
  deriving Repr, DecidableEq

/-- A fenced code block. -/
structure Fence where
  /-- The fence as written, from the opening line to the closing marker run. -/
  raw : Text
  /-- The white space before the opening marker run. -/
  indent : Text
  /-- What follows the opening marker run, trimmed. -/
  info : Text
  /-- The lines between the fence lines, without the line breaks at the end. -/
  body : Text
  deriving Repr, DecidableEq

/-- A piece of a document. -/
inductive Segment where
  /-- Markup. -/
  | text (s : Text)
  /-- Fenced code. -/
  | fence (f : Fence)
  deriving Repr, DecidableEq

/-- The characters that a piece covers in its document. -/
def Segment.raw : Segment → Text
  | .text s => s
  | .fence f => f.raw

/-- The characters that a fence marker is made of. -/
def isMarker (c : Char) : Bool := c = '\x60' || c = '~'

/-- The length of the run of `m` that a text starts with. -/
def runLength (m : Char) (s : Text) : Nat := (s.takeWhile (· = m)).length

/-- A line read as one that opens a fence. -/
def opening? (line : Text) : Option Opening :=
  let content := dropEndWhile isLineEnd line
  match content.dropWhile isBlank with
  | [] => none
  | m :: rest =>
    let size := runLength m (m :: rest)
    if isMarker m && 3 ≤ size then
      some
        { indent := content.takeWhile isBlank
          marker := m
          size := size
          info := trim ((m :: rest).dropWhile (· = m)) }
    else
      none

/-- Whether a line closes the fence that `o` opens. -/
def Opening.closedBy (o : Opening) (line : Text) : Bool :=
  let s := trimStart line
  o.size ≤ runLength o.marker s && (s.dropWhile (· = o.marker)).all isBlank

/-- The fence with opening line `head`, the lines `body` and the closing line `closing`, which
is cut after its marker run and is empty for a fence that is not closed. -/
def Opening.fence (o : Opening) (head body closing : Text) : Fence where
  raw := head ++ body ++ closing
  indent := o.indent
  info := o.info
  body := dropEndWhile isLineEnd body

/-- A piece of markup, unless it is empty. -/
def markup : Text → List Segment
  | [] => []
  | s => [.text s]

/-- What the lines from some line on hold. -/
structure Scan where
  /-- The characters up to where the current piece ends. -/
  current : Text
  /-- The closing line of the current piece, if it is a fence that is closed. -/
  closing : Text
  /-- The pieces after the current one. -/
  later : List Segment

/-- Reads lines that follow the opening line `o`, or that stand outside a fence. -/
def scan : Option Opening → List Text → Scan
  | _, [] => ⟨[], [], []⟩
  | none, l :: ls =>
    match opening? l with
    | none => { scan none ls with current := l ++ (scan none ls).current }
    | some o =>
      let inside := scan (some o) ls
      ⟨[], [], .fence (o.fence l inside.current inside.closing) :: inside.later⟩
  | some o, l :: ls =>
    if o.closedBy l then
      let outside := scan none ls
      let kept := trimEnd l
      ⟨[], kept, markup (l.drop kept.length ++ outside.current) ++ outside.later⟩
    else
      { scan (some o) ls with current := l ++ (scan (some o) ls).current }

/-- The pieces of a document, in order. -/
def segments (text : Text) : List Segment :=
  let outside := scan none (lines text)
  markup outside.current ++ outside.later

/-- The first word of the info string, or nothing. -/
def Fence.language (f : Fence) : Text := (firstWord? f.info).getD []

/-- A line without its leading blanks and tabs, of which at most `width` go. -/
def unindentLine : Nat → Text → Text
  | width + 1, c :: r => if c = ' ' || c = '\t' then unindentLine width r else c :: r
  | _, s => s

/-- The body with the indentation of the opening line removed from each of its lines. -/
def Fence.code (f : Fence) : Text :=
  (lines f.body).flatMap (unindentLine (byteSize f.indent))

end DocPreview.Document
