import DocPreview.Markup.Block

/-!
# The blocks of a document

A document is read line by line. A line first goes on with the containers that are open, then can
start new ones, and what is left of it goes on with the open leaf or starts another one. A line
that lacks the mark of a container can still go on with a paragraph inside.

## Main definitions

* `OpenLeaf`, `Outline`: the block that may go on, and all that has been read.
* `Outline.readLine`: one more line.
* `Outline.ofLines`: the blocks of a document.
-/

namespace DocPreview.Markup

open Text

/-- A block that the next line may go on with; lines are held with the latest first. -/
inductive OpenLeaf where
  | none
  | paragraph (lines : List Line)
  | code (fence : CodeFence) (lines : List Line)
  | table (alignments : List (Option Alignment)) (rows : List Row)
  /-- Tags and expressions that have not ended, after a block that they may belong to. -/
  | markup (before : OpenLeaf) (lines : List Line)
  | module (lines : List Line)

/-- A container with the blocks read in it, the latest first. -/
structure Frame where
  container : Container
  blocks : List Block

/-- What has been read of a document. -/
structure Outline where
  /-- The open containers, the innermost first. -/
  frames : List Frame
  /-- The blocks outside all open containers, the latest first. -/
  blocks : List Block
  leaf : OpenLeaf
  definitions : List Definition
  /-- The labels of notes. -/
  notes : List Text
  /-- The end of the line read last. -/
  lastEnd : Point

namespace Outline

/-- The outline of nothing. -/
def empty : Outline := ⟨[], [], .none, [], [], ⟨1, 1⟩⟩

/-- Adds a block where the last line was. -/
def push (o : Outline) (b : Block) : Outline :=
  match o.frames with
  | f :: fs => { o with frames := { f with blocks := b :: f.blocks } :: fs }
  | [] => { o with blocks := b :: o.blocks }

/-- Ends a paragraph: the definitions at its start are no part of it. -/
def endParagraph (o : Outline) (lines : List Line) : Outline :=
  let (ds, content) := readDefinitions lines.reverse
  let o := { o with leaf := .none, definitions := o.definitions ++ ds }
  if content.isEmpty then o else o.push (.paragraph content)

/-- The part of the tags and expressions of a text that has been read: the pieces, the latest
first. -/
def readMarkup (c : Content) : Nat → Script.Cursor → List Piece → Except ScanStop (List Piece)
  | 0, _, _ => .error .notTag
  | n + 1, cur, out => do
    let cur := cur.skipWhile Line.isIndent
    match cur.rest with
    | [] => .ok out
    | '<' :: _ =>
      let (t, next) ← Tag.scan cur
      readMarkup c n next (.tag (t.map c.pointAt) :: out)
    | '\x7b' :: _ =>
      match out with
      | .leaf _ :: _ => .error .notTag
      | _ =>
        let (value, next) ← scanExpression .content cur.advance
        readMarkup c n next (.leaf (.expression value) :: out)
    | _ => .error .notTag

/-- The tags and expressions that a content is made of. -/
def markupPieces (c : Content) : Except ScanStop (List Piece) :=
  (readMarkup c (c.text.length + 1) ⟨c.text, 0⟩ []).map List.reverse

/-- What lines stand for as imports and exports, if they end here. -/
def readImports (text : Text) (c : Content) : Except Failure (Option (List Script.Node)) :=
  match readModule text with
  | .ok items => .ok (some items)
  | .error (.invalid i p) => .error (Failure.at (c.pointAt i) p)
  | .error _ => .ok none

/-- Starts a paragraph with a line, or goes on with one. -/
def addText (o : Outline) (l : Line) : Outline :=
  match o.leaf with
  | .paragraph lines =>
    let width := match lines with
      | head :: _ => headWidth? head
      | [] => none
    match if l.isLazy then none else alignments? l with
    | some found =>
      match lines with
      | head :: before =>
        if width = some found.length then
          let o := if before.isEmpty then { o with leaf := .none } else o.endParagraph before
          { o with leaf := .table found [rowOf head] }
        else { o with leaf := .paragraph (l :: lines) }
      | [] => { o with leaf := .paragraph [l] }
    | none => { o with leaf := .paragraph (l :: lines) }
  | .table alignments rows =>
    if l.isLazy then
      { o.push (.table alignments rows.reverse) with leaf := .paragraph [l] }
    else { o with leaf := .table alignments (rowOf l :: rows) }
  | _ => { o with leaf := .paragraph [l] }

mutual

/-- Ends the open leaf at a point; `n` bounds the number of lines to be read anew. -/
def endLeaf : Nat → Point → Outline → Except Failure Outline
  | 0, _, o => .ok { o with leaf := .none }
  | n + 1, stop, o =>
    match o.leaf with
    | .none => .ok o
    | .paragraph lines => .ok (o.endParagraph lines)
    | .code fence lines =>
      .ok { o.push (.code fence.language (fence.code lines.reverse)) with leaf := .none }
    | .table alignments rows =>
      .ok { o.push (.table alignments rows.reverse) with leaf := .none }
    | .markup before lines =>
      match markupPieces lines.reverse with
      | .error (.endsInExpression p) => .error (Failure.at stop p)
      | _ => do
        let o ← readAsText n { o with leaf := before } lines.reverse
        endLeaf n stop o
    | .module lines => do
      let c : Content := lines.reverse
      let text := c.text ++ (lines.head?.map (·.ending)).getD []
      match ← readImports text c with
      | some items => .ok { o.push (.module items c) with leaf := .none }
      | none =>
        match checkModule text with
        | .unfinished p => .error (Failure.at stop p)
        | _ => .ok { o with leaf := .none }

/-- Reads lines whose first one is text. -/
def readAsText : Nat → Outline → List Line → Except Failure Outline
  | _, o, [] => .ok o
  | 0, o, _ => .ok o
  | n + 1, o, l :: ls => readLeafLines n (o.addText l) ls

/-- Reads the rest of lines for the open leaf or as the start of others. -/
def readLeafLines : Nat → Outline → List Line → Except Failure Outline
  | _, o, [] => .ok o
  | 0, o, _ => .ok o
  | n + 1, o, l :: ls => do
    let o ← readLeafLine n o l
    readLeafLines n o ls

/-- Reads tags and expressions that may belong to a block before. -/
def readMarkupLines : Nat → Outline → OpenLeaf → List Line → Except Failure Outline
  | 0, o, _, _ => .ok o
  | n + 1, o, before, lines =>
    let content : Content := lines.reverse
    match markupPieces content with
    | .ok pieces => do
      let o ← endLeaf n o.lastEnd { o with leaf := before }
      .ok (pieces.foldl (fun o p => o.push (.piece p)) o)
    | .error (.failed i p) => .error (Failure.at (content.pointAt i) p)
    | .error .notTag => readAsText n { o with leaf := before } content
    | .error .endsInTag | .error (.endsInExpression _) =>
      .ok { o with leaf := .markup before lines }

/-- Reads the rest of a line as the start of a block, or for an open paragraph or table. -/
def startLeaf : Nat → Outline → Line → Except Failure Outline
  | 0, o, _ => .ok o
  | n + 1, o, l => do
    let isText := match o.leaf with
      | .paragraph _ => true
      | _ => false
    let interrupts := match o.leaf with
      | .paragraph _ | .table _ _ => true
      | _ => false
    if l.isBlank then
      let o ← endLeaf n o.lastEnd o
      return if l.ending.isEmpty then o else o.push .blank
    if !interrupts && startsModule l then
      return { o with leaf := .module [l] }
    if let some fence := CodeFence.opening? l then
      let o ← endLeaf n o.lastEnd o
      return { o with leaf := .code fence [] }
    if l.trimmed.text.head?.any fun c => c = '<' || c = '\x7b' then
      return ← readMarkupLines n o o.leaf [l]
    if let some (depth, line) := headingLine? l then
      let o ← endLeaf n o.lastEnd o
      return o.push (.heading depth false [{ line with ending := [] }] l.start l.stop)
    if isText && !l.isLazy then
      if let some depth := underline? l then
        if let .paragraph lines := o.leaf then
          let (ds, content) := readDefinitions lines.reverse
          if !content.isEmpty then
            let start := (content.head?.map (·.start)).getD l.start
            let o := { o with leaf := .none, definitions := o.definitions ++ ds }
            return o.push (.heading depth true content start l.stop)
    if isRule l then
      let o ← endLeaf n o.lastEnd o
      return o.push .rule
    return o.addText l

/-- Reads the rest of a line for the open leaf, or as the start of another one. -/
def readLeafLine : Nat → Outline → Line → Except Failure Outline
  | 0, o, _ => .ok o
  | n + 1, o, l =>
    match o.leaf with
    | .code fence lines =>
      if l.isLazy then do
        let o ← endLeaf n o.lastEnd o
        startLeaf n o l
      else if fence.isClosedBy l then endLeaf n o.lastEnd o
      else .ok { o with leaf := .code fence (l :: lines) }
    | .module lines =>
      if l.isBlank then do
        let c : Content := lines.reverse
        match ← readImports c.text c with
        | some items => startLeaf n { o.push (.module items c) with leaf := .none } l
        | none => .ok { o with leaf := .module (l :: lines) }
      else .ok { o with leaf := .module (l :: lines) }
    | .markup before lines =>
      if l.isLazy then
        match markupPieces lines.reverse with
        | .error (.endsInExpression _) => .error (Failure.at l.start .lazyExpression)
        | _ => .error (Failure.at l.start .lazyTag)
      else readMarkupLines n o before (l :: lines)
    | _ => startLeaf n o l

end

/-- Whether a line that lacks the marks of containers goes on with the open leaf. -/
def acceptsLazily (o : Outline) (l : Line) : Bool :=
  match o.leaf with
  | .paragraph _ =>
    let isMarkup := (l.trimmed.text.head?.any fun c => c = '<' || c = '\x7b') &&
      !(match markupPieces [l] with
        | .error .notTag => true
        | _ => false)
    !(l.isBlank || isMarkup || (CodeFence.opening? l).isSome || (headingLine? l).isSome || isRule l)
  | .markup _ _ => true
  | _ => false

/-- Closes the innermost container. A blank line just before is outside of it. -/
def closeContainer (o : Outline) : Outline :=
  match o.frames with
  | [] => o
  | f :: fs =>
    let made (blocks : List Block) : Block := .container f.container o.lastEnd blocks.reverse
    match f.blocks with
    | .blank :: rest => ({ o with frames := fs }.push (made rest)).push .blank
    | blocks => { o with frames := fs }.push (made blocks)

/-- Closes the innermost containers. -/
def closeContainers : Nat → Outline → Outline
  | 0, o => o
  | n + 1, o => closeContainers n o.closeContainer

/-- The frames that a line goes on with, the outermost first, the number of those that it does not
go on with, and what is left of the line. -/
def continueFrames : List Frame → Line → List Frame × Nat × Line
  | [], l => ([], 0, l)
  | f :: fs, l =>
    match f.container.continue? l with
    | some (c, rest) =>
      let (kept, closed, l) := continueFrames fs rest
      ({ f with container := c } :: kept, closed, l)
    | none => (f :: fs, fs.length + 1, l)

/-- Whether nothing can start inside the open leaf. -/
def isOpaque (o : Outline) : Bool :=
  match o.leaf with
  | .code _ _ | .markup _ _ | .module _ => true
  | _ => false

/-- Starts the containers whose marks stand at the start of a line; the first argument bounds their
number. -/
def openContainers : Nat → Bool → Outline → Line → Outline × Line
  | 0, _, o, l => (o, l)
  | n + 1, interrupts, o, l =>
    match Container.opening? interrupts l with
    | none => (o, l)
    | some (c, rest) =>
      let notes := match c.kind with
        | .note label => o.notes ++ [normalizeLabel label]
        | _ => o.notes
      openContainers n false { o with frames := ⟨c, []⟩ :: o.frames, notes := notes } rest

/-- The outline after one more line; `fuel` bounds the number of lines to be read anew. -/
def readLine (fuel : Nat) (o : Outline) (l : Line) : Except Failure Outline := do
  let whole := l
  let (frames, closed, l) := continueFrames o.frames.reverse l
  let o := { o with frames := frames.reverse }
  let finish (o : Outline) : Outline := { o with lastEnd := whole.stop }
  if closed = 0 && o.isOpaque then
    return finish (← readLeafLine fuel o l)
  let interrupts := closed = 0 &&
    match o.leaf with
    | .paragraph _ | .table _ _ => true
    | _ => false
  match Container.opening? interrupts l with
  | some _ =>
    let o ← endLeaf fuel whole.start o
    let (o, rest) := openContainers (l.text.length + 1) interrupts (closeContainers closed o) l
    return finish (← readLeafLine fuel o rest)
  | none =>
    if closed = 0 then
      return finish (← readLeafLine fuel o l)
    if acceptsLazily o l then
      return finish (← readLeafLine fuel o { l with isLazy := true })
    let o ← endLeaf fuel whole.start o
    return finish (← readLeafLine fuel (closeContainers closed o) l)

/-- The lines of a document without an empty one after the last line end. -/
def dropLast (ls : List Line) : List Line :=
  match ls.getLast? with
  | some l => if l.text.isEmpty then ls.dropLast else ls
  | none => ls

/-- The outline after one more line in which no container can start. -/
def readPlainLine (fuel : Nat) (o : Outline) (l : Line) : Except Failure Outline := do
  return { ← readLeafLine fuel o l with lastEnd := l.stop }

/-- The outline of a document with the given lines, which ends at a point; no container starts in
the first `plain` lines. -/
def ofLines (plain : Nat) (ls : List Line) (stop : Point) : Except Failure Outline := do
  let fuel := 4 * ls.length + 8
  let ls := dropLast ls
  let o ← (ls.take plain).foldlM (readPlainLine fuel) empty
  let o ← (ls.drop plain).foldlM (readLine fuel) o
  let o ← endLeaf fuel stop o
  return closeContainers o.frames.length o

end Outline

end DocPreview.Markup
