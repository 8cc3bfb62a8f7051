import DocPreview.Text.Basic

/-!
# Diagram blocks of a document

A document can hold diagrams in several dialects. Each has names of its own: the label of its
fences, the end of its address on a rendering server, the start of the ids of its rendered diagrams,
and the name shown to a reader.

A block of a dialect is three backticks, the dialect's label, a line break, the source, a line
break and three backticks. The source is as short as possible, and blocks are found from the
start of the text, each search starting after the block before.

`pieces` cuts a text into blocks and the characters between them, so that their concatenation is
the text; `blocks` lists the blocks with their number and their place.
-/

namespace DocPreview.Diagram

/-- A language for diagrams. -/
inductive Dialect where
  | plantUml
  | mermaid
  deriving Repr, DecidableEq

namespace Dialect

/-- The dialects in the order in which they are processed. -/
def all : List Dialect := [plantUml, mermaid]

/-- The word after the backticks of a fence of the dialect. -/
def label : Dialect → String
  | plantUml => "plantuml"
  | mermaid => "mermaid"

/-- The path segment of the dialect on a rendering server. -/
def endpoint : Dialect → String
  | plantUml => "plantuml"
  | mermaid => "mermaid"

/-- The start of the ids of the dialect's diagrams. -/
def idStart (d : Dialect) : String := d.label

/-- The name of the dialect in messages. -/
def displayName : Dialect → String
  | plantUml => "PlantUML"
  | mermaid => "Mermaid"

end Dialect

open Text

/-- The three backticks of a fence line. -/
def backticks : Text := ['\x60', '\x60', '\x60']

/-- The line break that a text starts with, and what follows it. -/
def lineBreak? : Text → Option (Text × Text)
  | '\n' :: r => some (['\n'], r)
  | '\r' :: '\n' :: r => some (['\r', '\n'], r)
  | _ => none

/-- A diagram fence as found in a text: its three parts make up the fence. -/
structure Found where
  /-- The opening line with its line break. -/
  opened : Text
  /-- The diagram source. -/
  source : Text
  /-- The line break after the source and the closing backticks. -/
  closed : Text
  deriving Repr, DecidableEq

/-- The whole fence. -/
def Found.matched (f : Found) : Text := f.opened ++ f.source ++ f.closed

/-- The end of a fence, if a text starts with it, and what follows. -/
def closing? (s : Text) : Option (Text × Text) := do
  let (brk, rest) ← lineBreak? s
  let after ← after? backticks rest
  return (brk ++ backticks, after)

/-- The shortest source before the end of a fence, that end, and what follows. -/
def source? : Text → Option (Text × Text × Text)
  | [] => none
  | c :: r =>
    match closing? (c :: r) with
    | some (closed, rest) => some ([], closed, rest)
    | none => (source? r).map fun (source, closed, rest) => (c :: source, closed, rest)

/-- The fence of dialect `d` that a text starts with, and what follows. -/
def found? (d : Dialect) (s : Text) : Option (Found × Text) := do
  let label ← after? (backticks ++ d.label.toList) s
  let (brk, inner) ← lineBreak? label
  let (source, closed, rest) ← source? inner
  return (⟨backticks ++ d.label.toList ++ brk, source, closed⟩, rest)

/-- A piece of a text: a character outside the fences of a dialect, or such a fence. -/
inductive Piece where
  | char (c : Char)
  | fence (f : Found)
  deriving Repr, DecidableEq

/-- The characters that a piece covers. -/
def Piece.raw : Piece → Text
  | .char c => [c]
  | .fence f => f.matched

/-- The pieces of a text; `fuel` bounds their number. -/
def piecesWithin (d : Dialect) : Nat → Text → List Piece
  | 0, s => s.map .char
  | _ + 1, [] => []
  | fuel + 1, c :: r =>
    match found? d (c :: r) with
    | some (f, rest) => .fence f :: piecesWithin d fuel rest
    | none => .char c :: piecesWithin d fuel r

/-- The fences of dialect `d` in a text and the characters between them. -/
def pieces (d : Dialect) (s : Text) : List Piece := piecesWithin d s.length s

/-- A diagram fence of a document. -/
structure Block where
  dialect : Dialect
  /-- The diagram source between the fence lines. -/
  source : Text
  /-- The fence as written. -/
  matched : Text
  /-- The number of blocks of the dialect before this one. -/
  index : Nat
  /-- The number of bytes before the block. -/
  start : Nat
  deriving Repr, DecidableEq

/-- The number of bytes before the end of the block. -/
def Block.stop (b : Block) : Nat := b.start + byteSize b.matched

/-- The id of the diagram with the given number. -/
def diagramId (d : Dialect) (index : Nat) : String := d.idStart ++ "-" ++ toString index

/-- The id of the block's diagram. -/
def Block.id (b : Block) : String := diagramId b.dialect b.index

/-- The blocks among pieces that stand after `index` blocks and `start` bytes. -/
def blocksFrom (d : Dialect) : Nat → Nat → List Piece → List Block
  | _, _, [] => []
  | index, start, .char c :: ps => blocksFrom d index (start + c.utf8Size) ps
  | index, start, .fence f :: ps =>
    ⟨d, f.source, f.matched, index, start⟩ ::
      blocksFrom d (index + 1) (start + byteSize f.matched) ps

/-- The blocks of dialect `d` in a text, in order. -/
def blocks (d : Dialect) (s : Text) : List Block := blocksFrom d 0 0 (pieces d s)

end DocPreview.Diagram
