import DocPreview.Artifact.Prepare
import DocPreview.Proofs.Diagram.Offset
import DocPreview.Proofs.Document.Offset

/-!
# A document is cut at borders of characters

On its way to a preview a document is cut into front matter and body, the body into segments, fenced
code into lines without their indentation, and the text around diagrams into the stretches between
them. All of this counts bytes, and a number of bytes at which a text cannot be cut ends the
program. `slices_eq` says that no document has such a number: every reader by offsets has a value,
the one of the reader without offsets.

## Main definitions

* `prepareAt?`: a document, prepared by offsets.

## Main results

* `slices_eq`: no cut of a document fails.
-/

namespace DocPreview.Preview

open Text Document Diagram Artifact

/-- A document, prepared by offsets. -/
def prepareAt? (show? : Option (Fence → Text)) (text : Text) : Option Text := do
  let located ← locate? text
  let bodyStart := located.elim 0 Prod.snd
  let kept ← slice? text 0 bodyStart
  let body ← slice? text bodyStart (byteSize text)
  return kept ++ (← segmentsAt? body).flatMap (prepareSegment show?)

theorem prepareAt?_eq (show? : Option (Fence → Text)) (text : Text) :
    prepareAt? show? text = some (prepareWith show? text) := by
  rw [prepareAt?, locate?_eq, prepareWith]
  cases h : frontMatter? text with
  | none =>
    have hbody := slice?_byteSize_append [] text
    rw [List.nil_append, byteSize_nil] at hbody
    have hkept := slice?_zero_append [] text
    rw [List.nil_append, byteSize_nil] at hkept
    simp [hkept, hbody, segmentsAt?_eq, prepareBody]
  | some f =>
    have hkept := slice?_zero_append f.block f.body
    have hbody := slice?_byteSize_append f.block f.body
    rw [block_append_body h] at hkept hbody
    simp [hkept, hbody, segmentsAt?_eq, prepareBody]

/-- No cut of a document fails. -/
theorem slices_eq (text : Text) :
    locate? text = some ((frontMatter? text).map fun f => (f.yaml, byteSize f.block)) ∧
      segmentsAt? text = some (segments text) ∧
      (∀ f : Fence, codeAt? f = some f.code) ∧
      (∀ show?, prepareAt? show? text = some (prepareWith show? text)) ∧
      ∀ d outcomes,
        splice? text (((blocks d text).zipWith Settled.mk outcomes).map Settled.replacement) =
          some (Pass.ofSettled text ((blocks d text).zipWith Settled.mk outcomes)).text := by
  refine ⟨locate?_eq text, segmentsAt?_eq text, codeAt?_eq, (prepareAt?_eq · text),
    fun d outcomes => splice?_settled (d := d) ?_⟩
  rw [map_block_zipWith]
  exact List.take_sublist ..

end DocPreview.Preview
