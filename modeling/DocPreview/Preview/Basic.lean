import DocPreview.Artifact.Build
import DocPreview.Diagram.Substitution
import DocPreview.Settings.Basic
import DocPreview.Text.Json

/-!
# Previews

A preview of a document is code that shows it, with the images for its diagrams. Rendering always
gives a preview: a diagram that fails is shown as a paragraph, and a document that cannot be built
is shown as a report.

## Main definitions

* `Preview.Options`: what is done for a preview.
* `Preview.diagrams`, `Preview.codeOf`: the parts of rendering.
* `Preview.render`: the preview of a document.
* `Preview.message`: what the host is sent.
-/

namespace DocPreview

open Diagram Artifact

/-- The code that shows a document, its diagrams, and what failed. -/
structure Preview where
  /-- The code; a report if building failed. -/
  code : Text
  rendered : List Rendered
  failed : List Failed
  /-- Why building failed, if it did. -/
  failure : Option BuildFailure
  /-- The number of times the renderer was used. -/
  calls : Nat

namespace Preview

/-- What is done for a preview. -/
structure Options where
  /-- Whether diagrams are rendered; else they are shown as code. -/
  isRendering : Bool
  /-- Whether code is highlighted. -/
  isHighlighting : Bool
  deriving Repr, DecidableEq

/-- What the settings say about previews. -/
def Options.ofSettings (s : Settings) : Options := ⟨s.isRendering, s.isHighlighting⟩

/-- A document with its diagrams replaced, if they are to be rendered. -/
def diagrams (render : Renderer) (o : Options) (text : Text) : Substitution :=
  if o.isRendering then substituteAll render text else .unchanged text

/-- The code of a document, whose diagrams are left as they are. -/
def codeOf (o : Options) (text : Text) : Except BuildFailure Text := build o.isHighlighting text

/-- The preview of a document. -/
def render (renderer : Renderer) (o : Options) (text : Text) : Preview :=
  let s := diagrams renderer o text
  let (code, failure) := buildOrReport o.isHighlighting s.text
  ⟨code, s.rendered, s.failed, failure, s.calls⟩

/-- A diagram as the host is sent it. -/
def diagramJson (d : Rendered) : Json := .object [("id", .string d.id), ("svg", .string d.svg)]

/-- What the host is sent: the code, with the diagrams if building did not fail. -/
def json (p : Preview) : Json :=
  let update := [("type", Json.string "update"), ("code", .string (String.ofList p.code))]
  match p.failure with
  | none => .object (update ++ [("diagrams", .array (p.rendered.map diagramJson))])
  | some _ => .object update

/-- The text of what the host is sent. -/
def message (p : Preview) : Text := p.json.compact.toList

end Preview

end DocPreview
