import DocPreview.Document.Comment
import DocPreview.Document.FrontMatter
import DocPreview.Highlight.Element

/-!
# Preparing a document

What markup with expressions does not take as it stands is written differently before a document
is compiled: comments of HTML become expressions, and fenced code becomes highlighted elements,
unless highlighting is off. Front matter is left alone.
-/

namespace DocPreview.Artifact

open Text Document

/-- A piece of a document, prepared with `show?`, which gives the element for a fence if code is
highlighted. -/
def prepareSegment (show? : Option (Fence → Text)) : Segment → Text
  | .text s => escapeComments s
  | .fence f =>
    match show? with
    | some shown => '\n' :: f.indent ++ shown f ++ ['\n']
    | none => f.raw

/-- The body of a document, prepared. -/
def prepareBody (show? : Option (Fence → Text)) (body : Text) : Text :=
  (segments body).flatMap (prepareSegment show?)

/-- A document, prepared. -/
def prepareWith (show? : Option (Fence → Text)) (text : Text) : Text :=
  match frontMatter? text with
  | some f => f.block ++ prepareBody show? f.body
  | none => prepareBody show? text

/-- A document, prepared with or without highlighting of its code. -/
def prepare (isHighlighting : Bool) (text : Text) : Text :=
  prepareWith (if isHighlighting then some Highlight.element else none) text

end DocPreview.Artifact
