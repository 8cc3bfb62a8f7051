import DocPreview.Diagram.Block
import DocPreview.Text.Basic

/-!
# Substitution of diagrams

A pass over a document renders each block of one dialect and puts in its place either an empty
element with the diagram's id, which the host fills, or a paragraph with the failure. All
characters between the blocks are kept. `substituteAll` runs one pass for each dialect, the later
one over the text that the earlier one leaves.

A renderer may have effects: `passWith` runs in the monad of the renderer. `substitute` runs it
with a renderer that writes down what it is asked.

## Main definitions

* `Failure`, `Failure.message`: why a diagram cannot be rendered, and the text for it.
* `Renderer`, `RendererIn`: what turns sources into images.
* `Pass`: what a pass leaves; `passWith`, `passesWith`: one pass, and one for each of some dialects.
* `substitute`, `substituteIn`, `substituteAll`: the same with the requests to the renderer.
-/

namespace DocPreview.Diagram

/-- Why a diagram was not rendered. -/
inductive Failure where
  /-- The request could not be sent or was not answered. -/
  | http (reason : String)
  /-- The server answered with a status that is no success. -/
  | status (code : Nat) (body : String)
  /-- The answer could not be read. -/
  | io (reason : String)
  deriving Repr, DecidableEq

/-- The text of a failure. -/
def Failure.message : Failure → String
  | .http reason => "HTTP error: " ++ reason
  | .status code body =>
    "server responded with " ++ toString code ++ (if body.isEmpty then "" else ": " ++ body)
  | .io reason => "I/O error: " ++ reason

/-- A diagram that was not rendered. -/
structure Failed where
  /-- The id that the diagram would have. -/
  id : String
  failure : Failure
  deriving Repr, DecidableEq

/-- The text of a failure with the id of its diagram. -/
def Failed.message (f : Failed) : String := "diagram " ++ f.id ++ ": " ++ f.failure.message

/-- One character of a text written so that markup reads it literally and on one line. -/
def inlineChar : Char → Text
  | '&' => "&amp;".toList
  | '<' => "&lt;".toList
  | '>' => "&gt;".toList
  | '\x7b' => "&#123;".toList
  | '\x7d' => "&#125;".toList
  | '\r' => []
  | '\n' => [' ']
  | c => [c]

/-- A text written so that markup reads it literally and on one line. -/
def inlineText (s : Text) : Text := s.flatMap inlineChar

open Text

/-- Renders the source of a diagram to SVG. -/
abbrev Renderer := Dialect → Text → Except Failure String

/-- Renders the source of a diagram to SVG with effects in `m`. -/
abbrev RendererIn (m : Type → Type) := Dialect → Text → m (Except Failure String)

/-- What a renderer is asked to render. -/
structure Request where
  dialect : Dialect
  source : Text
  deriving Repr, DecidableEq

/-- The renderer that appends each request to a list. -/
def Renderer.recorded (render : Renderer) : RendererIn (StateM (List Request)) := fun d source => do
  modify (· ++ [⟨d, source⟩])
  return render d source

/-- A diagram with its image. -/
structure Rendered where
  /-- The id of the element that shows the image. -/
  id : String
  svg : String
  deriving Repr, DecidableEq

/-- What passes over a document leave. -/
structure Pass where
  /-- The document after substitution. -/
  text : Text
  /-- The diagrams that were rendered, in order. -/
  rendered : List Rendered
  /-- The diagrams that were not rendered, in order. -/
  failed : List Failed
  deriving Repr, DecidableEq

/-- A document with its diagrams replaced. -/
structure Substitution extends Pass where
  /-- What the renderer was asked, in order. -/
  requests : List Request
  deriving Repr, DecidableEq

/-- The number of times the renderer was used. -/
def Substitution.calls (s : Substitution) : Nat := s.requests.length

/-- The element that the host fills with the diagram's image. -/
def placeholder (id : String) : Text := ("<div id=\"" ++ id ++ "\"></div>").toList

/-- The paragraph that shows a failure in the place of a diagram. -/
def failureParagraph (d : Dialect) (failure : Failure) : Text :=
  "<p>".toList ++ d.displayName.toList ++ " Error: ".toList ++
    inlineText failure.message.toList ++ "</p>".toList

/-- What stands in the place of a diagram. -/
def fragment (d : Dialect) (id : String) : Except Failure String → Text
  | .ok _ => placeholder id
  | .error failure => failureParagraph d failure

/-- A block with what the renderer answers. -/
structure Settled where
  block : Block
  outcome : Except Failure String

namespace Settled

/-- What is put in the place of the block. -/
def replacement (b : Settled) : Replacement :=
  ⟨b.block.start, b.block.stop, fragment b.block.dialect b.block.id b.outcome⟩

/-- The diagram of a block that was rendered. -/
def rendered? (b : Settled) : Option Rendered :=
  match b.outcome with
  | .ok svg => some ⟨b.block.id, svg⟩
  | .error _ => none

/-- The diagram of a block that was not rendered. -/
def failed? (b : Settled) : Option Failed :=
  match b.outcome with
  | .ok _ => none
  | .error failure => some ⟨b.block.id, failure⟩

end Settled

/-- A document that is left as it is. -/
def Pass.unchanged (text : Text) : Pass := ⟨text, [], []⟩

/-- A pass that puts blocks of a text in order. -/
def Pass.ofSettled (text : Text) (bs : List Settled) : Pass :=
  ⟨splice text (bs.map Settled.replacement), bs.filterMap Settled.rendered?,
    bs.filterMap Settled.failed?⟩

/-- A pass over the text of another one, with the diagrams of both. -/
def Pass.andThen (p q : Pass) : Pass := ⟨q.text, p.rendered ++ q.rendered, p.failed ++ q.failed⟩

/-- Replaces the diagrams of one dialect. A text without one needs no renderer. -/
def passWith {m : Type → Type} [Monad m] (render : RendererIn m) (d : Dialect) (text : Text) :
    m Pass := do
  let found := blocks d text
  if found.isEmpty then
    return .unchanged text
  let outcomes ← found.mapM fun b => render d b.source
  return .ofSettled text (found.zipWith Settled.mk outcomes)

/-- Replaces the diagrams of some dialects, one dialect after the other. -/
def passesWith {m : Type → Type} [Monad m] (render : RendererIn m) (order : List Dialect)
    (text : Text) : m Pass :=
  order.foldlM (fun p d => return p.andThen (← passWith render d p.text)) (.unchanged text)

/-- A computation with its requests, as a substitution. -/
def Substitution.ofRun (run : StateM (List Request) Pass) : Substitution :=
  let (p, requests) := run.run []
  { p with requests }

/-- Replaces the diagrams of one dialect. -/
def substitute (render : Renderer) (d : Dialect) (text : Text) : Substitution :=
  .ofRun (passWith render.recorded d text)

/-- Replaces the diagrams of some dialects, one dialect after the other. -/
def substituteIn (render : Renderer) (order : List Dialect) (text : Text) : Substitution :=
  .ofRun (passesWith render.recorded order text)

/-- Replaces the diagrams of all dialects. -/
def substituteAll (render : Renderer) (text : Text) : Substitution :=
  substituteIn render Dialect.all text

/-- A document that is left as it is, for which no renderer is asked. -/
def Substitution.unchanged (text : Text) : Substitution :=
  { Pass.unchanged text with requests := [] }

end DocPreview.Diagram
