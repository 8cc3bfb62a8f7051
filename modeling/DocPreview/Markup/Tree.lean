import DocPreview.Markup.Tag

/-!
# Trees of documents

What a document is made of, first as pieces among which the tags of elements still stand where
they were written, and then as a tree in which the elements hold what is between their tags. A
closing tag has to close the element opened last, inside the same group.

## Main definitions

* `Leaf`, `Group`: the parts of a document that hold no other parts, and those that do.
* `Piece`, `Node`: documents before and after their tags are matched.
* `Piece.nest`: the tree that pieces make.
-/

namespace DocPreview.Markup

/-- The position of the text in the cells of a column. -/
inductive Alignment where
  | left
  | center
  | right
  deriving Repr, DecidableEq

/-- A part of a document that holds no other parts. -/
inductive Leaf where
  | text (s : Text)
  /-- A block of code with the language that it names. -/
  | code (language : Option Text) (value : Text)
  | inlineCode (value : Text)
  | rule
  | lineBreak
  | image (url : Text) (title : Option Text) (alt : Text)
  /-- A call of the note with a label. -/
  | noteCall (label : Text)
  | expression (value : Text)
  /-- Imports and exports, with the text they were read from. -/
  | module (items : List Script.Node) (source : Content)

/-- A part of a document that holds other parts. -/
inductive Group where
  | paragraph
  | heading (depth : Nat) (isUnderlined : Bool)
  | quote
  /-- A list, with the number of its first item if it is ordered. -/
  | list (start : Option Nat) (isLoose : Bool)
  | item (isLoose : Bool) (checked : Option Bool)
  | note (label : Text)
  | table (alignments : List (Option Alignment))
  | row
  | cell
  | emphasis
  | strong
  | strike
  | link (url : Text) (title : Option Text)
  /-- An element, or a fragment if it has no name. -/
  | element (name : Option String) (attributes : List (Attribute Point))
  deriving Repr, DecidableEq

/-- The name of a group in a message. -/
def Group.shown : Group → String
  | paragraph => "Paragraph"
  | heading _ isUnderlined => if isUnderlined then "HeadingSetext" else "HeadingAtx"
  | quote => "BlockQuote"
  | list start _ => if start.isSome then "ListOrdered" else "ListUnordered"
  | item _ _ => "ListItem"
  | note _ => "GfmFootnoteDefinition"
  | table _ => "GfmTable"
  | row => "GfmTableRow"
  | cell => "GfmTableCell"
  | emphasis => "Emphasis"
  | strong => "Strong"
  | strike => "GfmStrikethrough"
  | link _ _ => "Link"
  | element _ _ => "MdxJsxFlowTag"

/-- A document whose tags stand where they were written. -/
inductive Piece where
  | leaf (l : Leaf)
  | tag (t : Tag Point)
  | group (g : Group) (start stop : Point) (children : List Piece)

/-- A document as a tree. -/
inductive Node where
  | leaf (l : Leaf)
  | group (g : Group) (children : List Node)

namespace Piece

/-- The elements that are open, the latest first, each with what stands before its tag. -/
abbrev OpenTags := List (Tag Point × List Node)

/-- A group in which tags are matched: its name and its start; none is the whole document. -/
abbrev Surroundings := Option (String × Point)

/-- Where the tags of the groups around have been opened, the latest first. -/
abbrev OuterTags := List (Tag Point)

/-- Checks what a tag holds. -/
def checkTag (t : Tag Point) (isOpen : Bool) : Except Failure Unit := do
  if !t.isClosing then
    return ()
  if !isOpen then
    throw (Failure.at { t.start with column := t.start.column + 1 } .closingWithoutOpening)
  if !t.attributes.isEmpty then
    throw (Failure.at t.start .attributeInClosing)
  if t.isSelfClosing then
    throw (Failure.at { t.stop with column := t.stop.column - 2 } .slashInClosing)

/-- The failure of a closing tag that closes another element than the open one. -/
def wrongClosing (found opened : Tag Point) : Failure :=
  ⟨found.start, some found.stop, .wrongClosing found.abbreviated opened.abbreviated opened.start⟩

/-- The nodes so far, the latest first, and the open tags, after one more tag. -/
def applyTag (around : Surroundings) (outer : OuterTags) (openTags : OpenTags) (done : List Node)
    (t : Tag Point) : Except Failure (OpenTags × List Node) := do
  checkTag t (!openTags.isEmpty || !outer.isEmpty)
  if t.isClosing then
    match openTags, outer with
    | (o, before) :: rest, _ =>
      if o.name ≠ t.name then
        throw (wrongClosing t o)
      return (rest, .group (.element o.name o.attributes) done.reverse :: before)
    | [], o :: _ =>
      if o.name ≠ t.name then
        throw (wrongClosing t o)
      let (name, start) := around.getD ("", t.start)
      throw (Failure.at t.stop (.closingInside t.abbreviated name start))
    | [], [] => return ([], done)
  else if t.isSelfClosing then
    return (openTags, .group (.element t.name t.attributes) [] :: done)
  else
    return ((t, done) :: openTags, [])

/-- The nodes when what is around ends; no element may be open. -/
def closeAll (stop : Point) (around : Surroundings) (openTags : OpenTags) (done : List Node) :
    Except Failure (List Node) :=
  match openTags with
  | [] => return done.reverse
  | (o, _) :: _ =>
    throw (Failure.at stop (.unclosedTag o.abbreviated o.start (around.map (·.1))))

/-- Adds a node before the nodes so far, the latest first; texts are joined. -/
def addNode : Node → List Node → List Node
  | .leaf (.text s), .leaf (.text t) :: done => .leaf (.text (t ++ s)) :: done
  | n, done => n :: done

mutual

/-- The nodes that pieces make, given what is around them and what has been read. -/
def nestAll (stop : Point) (around : Surroundings) (outer : OuterTags) (openTags : OpenTags)
    (done : List Node) : List Piece → Except Failure (List Node)
  | [] => closeAll stop around openTags done
  | .tag t :: rest => do
    let (openTags', done') ← applyTag around outer openTags done t
    nestAll stop around outer openTags' done' rest
  | p :: rest => do
    let n ← nestOne (openTags.map (·.1) ++ outer) p
    nestAll stop around outer openTags (addNode n done) rest

/-- The node that a piece makes that is no tag. -/
def nestOne (outer : OuterTags) : Piece → Except Failure Node
  | .leaf l => return .leaf l
  | .tag _ => return .leaf (.text [])
  | .group g start stop children =>
    return .group g (← nestAll stop (some (g.shown, start)) outer [] [] children)

end

/-- The tree that the pieces of a document make, which ends at a point. -/
def nest (stop : Point) (pieces : List Piece) : Except Failure (List Node) :=
  nestAll stop none [] [] [] pieces

end Piece

end DocPreview.Markup
