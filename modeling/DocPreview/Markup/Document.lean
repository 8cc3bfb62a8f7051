import DocPreview.Markup.Inline
import DocPreview.Markup.Outline

/-!
# Documents as trees

The blocks of a document become pieces: items that follow each other make a list, and the contents
of the blocks are read with the labels of the whole document. Matching the tags of the pieces
makes the tree.

## Main definitions

* `dropFrontMatter`: a document without the data before it.
* `parseDocument`: the tree of a document.
-/

namespace DocPreview.Markup

open Text

/-! ### Data before a document -/

/-- Whether a line is made of three marks. -/
def isFrontMatterMark (mark : Char) (l : Line) : Bool :=
  dropEndWhile Line.isIndent l.text = [mark, mark, mark]

/-- The lines after the first line made of marks. -/
def afterMark? (mark : Char) : List Line → Option (List Line)
  | [] => none
  | l :: ls => if isFrontMatterMark mark l then some ls else afterMark? mark ls

/-- The lines of a document without the data between two lines of marks at its start, and the
number of lines from there on in which no container starts: if no line closes the data, these are
all but the last one, and else there are none. -/
def dropFrontMatter (ls : List Line) : List Line × Nat :=
  match ls with
  | l :: rest =>
    match ['-', '+'].find? fun mark => isFrontMatterMark mark l with
    | some mark =>
      match afterMark? mark rest with
      | some body => (body, 0)
      | none => (ls, rest.length)
    | none => (ls, 0)
  | [] => ([], 0)

/-! ### Lists -/

/-- An item of a list. -/
structure Item where
  mark : Char
  number : Option Nat
  /-- Whether a blank line stands between its blocks. -/
  isSpread : Bool
  isEmpty : Bool
  checked : Option Bool
  start : Point
  stop : Point
  children : List Piece

/-- A block as a part of what is around it. -/
inductive Part where
  | blank
  | item (i : Item)
  | pieces (ps : List Piece)

/-- A list that can go on: its items and whether blank lines loosen it, the latest item first. -/
structure OpenList where
  items : List Item
  isSpread : Bool

/-- The piece that a list makes. -/
def OpenList.piece (l : OpenList) : List Piece :=
  let items := l.items.reverse
  match items with
  | [] => []
  | first :: _ =>
    let isLoose := l.isSpread || items.any (·.isSpread)
    let stop := (l.items.head?.map (·.stop)).getD first.stop
    [.group (.list first.number isLoose) first.start stop
      (items.map fun i => .group (.item isLoose i.checked) i.start i.stop i.children)]

/-- Whether an item goes on with a list. -/
def OpenList.accepts (l : OpenList) (i : Item) : Bool := l.items.head?.any fun j => j.mark = i.mark

/-- The pieces of parts, given the list before and whether a blank line stands after it. -/
def joinParts : Option OpenList → Bool → List Part → List Piece
  | open_, _, [] => (open_.map OpenList.piece).getD []
  | none, _, .blank :: ps => joinParts none false ps
  | none, _, .item i :: ps => joinParts (some ⟨[i], false⟩) false ps
  | none, _, .pieces xs :: ps => xs ++ joinParts none false ps
  | some l, _, .blank :: ps => joinParts (some l) true ps
  | some l, wasBlank, .item i :: ps =>
    if l.accepts i then
      let isLoose := wasBlank && l.items.head?.any (!·.isEmpty)
      joinParts (some ⟨i :: l.items, l.isSpread || isLoose⟩) false ps
    else l.piece ++ joinParts (some ⟨[i], false⟩) false ps
  | some l, _, .pieces xs :: ps => l.piece ++ xs ++ joinParts none false ps

/-! ### Blocks as pieces -/

/-- Whether a blank line stands among the blocks of an item, after the first one. -/
def isSpread (children : List Block) : Bool :=
  (children.drop 1).any fun
    | .blank => true
    | _ => false

/-- The pieces of a row of a table. -/
def rowPieces (labels : Labels) (r : Row) : Except Failure Piece := do
  let cells ← r.cells.mapM fun c => do
    let start := c.pointAt 0
    let stop := c.pointAt c.text.length
    return Piece.group .cell start stop (← c.piecesFrom labels true 0)
  return .group .row r.start r.stop cells

/-- The pieces of a paragraph from a character on. -/
def paragraphPiece (labels : Labels) (n : Nat) (c : Content) : Except Failure Piece := do
  return .group .paragraph (c.pointAt 0) (c.pointAt c.text.length) (← c.piecesFrom labels false n)

/-- The pieces of a block that holds no blocks. -/
def leafPieces (labels : Labels) : Block → Except Failure (List Piece)
  | .paragraph c => return [← paragraphPiece labels 0 c]
  | .heading depth isUnderlined c start stop =>
    return [.group (.heading depth isUnderlined) start stop (← c.pieces labels)]
  | .rule => return [.leaf .rule]
  | .code language value => return [.leaf (.code language value)]
  | .table alignments rows => do
    let made ← rows.mapM (rowPieces labels)
    let start := (rows.head?.map (·.start)).getD ⟨1, 1⟩
    let stop := (rows.getLast?.map (·.stop)).getD ⟨1, 1⟩
    return [.group (.table alignments) start stop made]
  | .piece p => return [p]
  | .module items source => return [.leaf (.module items source)]
  | .blank | .container _ _ _ => return []

/-- The paragraph at the start of an item that starts with the check of a task, whether the task is
done, and the number of characters of the check with the blank after it. -/
def taskOf? : List Block → Option (Content × Bool × Nat)
  | .paragraph content :: _ =>
    (Inline.taskCheck? content.text).map fun (checked, n) => (content, checked, n + 1)
  | _ => none

mutual

/-- The parts that blocks make. -/
def partsOf (labels : Labels) : List Block → Except Failure (List Part)
  | [] => return []
  | b :: bs => do
    let p ← partOf labels b
    return p :: (← partsOf labels bs)

/-- The part that a block makes. -/
def partOf (labels : Labels) : Block → Except Failure Part
  | .blank => return .blank
  | .container c stop children =>
    match c.kind with
    | .quote => do
      let parts ← partsOf labels children
      return .pieces [.group .quote c.start stop (joinParts none false parts)]
    | .note label => do
      let parts ← partsOf labels children
      return .pieces [.group (.note label) c.start stop (joinParts none false parts)]
    | .item mark number => do
      let parts ← partsOf labels children
      let task := taskOf? children
      let parts ← match task with
        | some (content, _, n) => do
          let first ← paragraphPiece labels n content
          pure (.pieces [first] :: parts.drop 1)
        | none => pure parts
      return .item
        { mark := mark, number := number, isSpread := isSpread children
          isEmpty := children.all fun
            | .blank => true
            | _ => false
          checked := task.map (·.2.1), start := c.start, stop := stop,
          children := joinParts none false parts }
  | b => return .pieces (← leafPieces labels b)

end

/-- The tree of a document. -/
def parseDocument (text : Text) : Except Failure (List Node × List Definition) := do
  let ls := Line.split text
  let stop := (ls.getLast?.map Line.stop).getD ⟨1, 1⟩
  let (ls, plain) := dropFrontMatter ls
  let o ← Outline.ofLines plain ls stop
  let labels : Labels := ⟨o.definitions, o.notes⟩
  let parts ← partsOf labels o.blocks.reverse
  return (← Piece.nest stop (joinParts none false parts), o.definitions)

end DocPreview.Markup
