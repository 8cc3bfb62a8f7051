import DocPreview.Proofs.Artifact.Preparation
import DocPreview.Proofs.Document.CommentSplit

/-!
# Comments of a prepared document

The comments of a document are escaped piece by piece, behind the cut into markup and fences. So a
comment that begins in markup becomes an expression exactly if it ends in the same piece. If a fence
opens between its opener and its closer, the opener is left in the prepared document, where the
markup with expressions has no such character: code that is commented out with its fence makes the
document fail.

## Main results

* `prepare_comment`: the comments that become expressions, and those that stay.
* `prepare_keeps_commented_fence`: a fence that is commented out.
-/

namespace DocPreview.Artifact

open Text Document

variable {isHighlighting : Bool} {text a b c rest : Text} {before after : List Segment}

/-- Pieces of a document, prepared with or without highlighting of the code. -/
def preparePieces (isHighlighting : Bool) (segs : List Segment) : Text :=
  segs.flatMap (prepareSegment (if isHighlighting then some Highlight.element else none))

/-- A prepared document is its front matter with the prepared pieces of its body behind it. -/
theorem prepare_eq_preparePieces (isHighlighting : Bool) (text : Text) :
    prepare isHighlighting text = takeBytes (bodyStart text) text ++
      preparePieces isHighlighting (segments (dropBytes (bodyStart text) text)) := by
  obtain ⟨front, body, htext, -, hstart, hprepare⟩ := exists_front text
  rw [prepare, hprepare, hstart]
  simp only [htext, takeBytes_byteSize_append, dropBytes_byteSize]
  rfl

/-- A comment that ends in the piece in which it begins becomes an expression. One that does not
leaves its opener, and what follows it in the piece, as they are. -/
theorem prepare_comment
    (hsegments : segments (dropBytes (bodyStart text) text) =
      before ++ .text (a ++ (commentOpener ++ b)) :: after)
    (ha : IsOutsideComment a) (hc : Document.IsComment c)
    (hrest : commentOpener ++ (b ++ after.flatMap Segment.raw) = c ++ rest) :
    (∀ r, commentOpener ++ b = c ++ r → prepare isHighlighting text =
      takeBytes (bodyStart text) text ++ (preparePieces isHighlighting before ++
        (escapeComments a ++ (wrapComment c ++
          (escapeComments r ++ preparePieces isHighlighting after))))) ∧
    (¬ c <+: commentOpener ++ b → prepare isHighlighting text =
      takeBytes (bodyStart text) text ++ (preparePieces isHighlighting before ++
        (escapeComments a ++ (commentOpener ++
          (b ++ preparePieces isHighlighting after))))) := by
  have hpiece : prepare isHighlighting text = takeBytes (bodyStart text) text ++
      (preparePieces isHighlighting before ++ (escapeComments a ++
        (escapeComments (commentOpener ++ b) ++ preparePieces isHighlighting after))) := by
    rw [prepare_eq_preparePieces, hsegments]
    simp only [preparePieces, List.flatMap_append, List.flatMap_cons, prepareSegment]
    rw [ha.escapeComments_append rfl, List.append_assoc]
  constructor
  · intro r hr
    rw [hpiece, hr, escapeComments_append_of_isComment hc, List.append_assoc]
  · intro hnot
    have hnone : ¬ commentCloser <:+: b := by
      intro hcloser
      cases hcomment : comment? (commentOpener ++ b) with
      | none => exact comment?_eq_none_iff.1 hcomment b rfl hcloser
      | some q =>
        obtain ⟨c', r'⟩ := q
        obtain ⟨hc', heq⟩ := comment?_eq_some_iff.1 hcomment
        rw [← List.append_assoc, heq, List.append_assoc] at hrest
        obtain ⟨rfl, -⟩ := eq_of_isComment_append hc' hc hrest
        exact hnot ⟨r', heq.symm⟩
    rw [hpiece, escapeComments_of_hasNoComment (hasNoComment_commentOpener_append hnone),
      List.append_assoc]

/-- A comment in a line of markup. -/
theorem prepare_comment_line : prepare true "a <!-- b */ --> c".toList =
    "a \x7b/* <!-- b * / --> */\x7d c".toList := by
  have hcomment : Document.IsComment "<!-- b */ -->".toList :=
    (comment?_eq_some_iff (s := "<!-- b */ --> c".toList) (r := " c".toList)).1
      (by decide +kernel) |>.1
  have ha : IsOutsideComment "a ".toList :=
    ⟨["a ".toList], [], .last fun u v h _ => by
      have hinfix : commentOpener <:+: "a ".toList := ⟨u, v, by rw [h, List.append_assoc]⟩
      revert hinfix
      decide, by decide⟩
  have hsegments : segments (dropBytes (bodyStart "a <!-- b */ --> c".toList)
      "a <!-- b */ --> c".toList) =
      [] ++ .text ("a ".toList ++ (commentOpener ++ " b */ --> c".toList)) :: [] := by
    decide +kernel
  have hrest : commentOpener ++ (" b */ --> c".toList ++ [].flatMap Segment.raw) =
      "<!-- b */ -->".toList ++ " c".toList := rfl
  have h : prepare true "a <!-- b */ --> c".toList = _ :=
    (prepare_comment hsegments ha hcomment hrest).1 " c".toList rfl
  rw [h]
  decide +kernel

/-- A comment that holds a fence begins in markup, and preparing leaves it as it is. -/
theorem prepare_keeps_commented_fence :
    let doc := "<!--\n\x60\x60\x60js\ncode\n\x60\x60\x60\n-->\n".toList
    (segments doc).head? = some (.text "<!--\n".toList) ∧
      comment? doc = some (doc.dropLast, ['\n']) ∧
      prepare false doc = doc ∧ prepare false doc ≠ wrapComment doc.dropLast ++ ['\n'] := by
  decide +kernel

end DocPreview.Artifact
