import DocPreview.Proofs.Document.FrontMatter
import DocPreview.Proofs.Document.Segmentation
import DocPreview.Proofs.Text.LineBreak
import DocPreview.Proofs.Text.Slice

/-!
# Line breaks and the parts of a document

The readers of lines do not look at line breaks: a line opens or closes a fence, or delimits front
matter, whatever its line break is. So a document with its line breaks changed has the same pieces
with their line breaks changed. No condition on the carriage returns of the document is needed.

## Main definitions

* `Fence.crlf`, `FrontMatter.crlf`: a fence and front matter with the line breaks changed.

## Main results

* `segments_crlf`: the segments of the changed document.
* `Fence.code_crlf`: the code of a changed fence.
* `frontMatter?_crlf`: the front matter of the changed document.
-/

namespace DocPreview.Document

open Text

/-! ### Lines -/

/-- The line break does not matter to whether a line opens a fence. -/
theorem opening?_crlf {l : Text} (hl : IsLine l) : opening? (crlf l) = opening? l := by
  refine opening?_congr ?_
  rw [dropEndWhile_crlf (by decide) (by decide), crlf_eq_self hl.lf_notMem_dropEndWhile]

theorem not_opensFence_crlf {l : Text} (hl : IsLine l) (h : ¬ OpensFence l) :
    ¬ OpensFence (crlf l) := by
  rwa [← opening?_eq_none_iff, opening?_crlf hl, opening?_eq_none_iff]

/-- The line break does not matter to whether a line closes a fence. -/
theorem closedBy_crlf {o : Opening} (hm : isMarker o.marker) (hn : 0 < o.size) {l : Text}
    (hl : IsLine l) : o.closedBy (crlf l) = o.closedBy l := by
  obtain ⟨c, v, w, -, rfl, hcrlf, hv, hw⟩ := hl.exists_blank
  rw [hcrlf, closedBy_append_of_blank hm hn hv, closedBy_append_of_blank hm hn hw]

/-- The line break does not matter to whether a line delimits front matter. -/
theorem isDelimiter_crlf (l : Text) : isDelimiter (crlf l) = isDelimiter l := by
  rw [isDelimiter, isDelimiter, trimEnd, dropEndWhile_crlf (by decide) (by decide)]
  exact decide_eq_decide.2 (crlf_eq_iff (by decide))

/-! ### Segments -/

/-- A fence with a carriage return before each of its line feeds. -/
def Fence.crlf (f : Fence) : Fence := { f with raw := Text.crlf f.raw, body := Text.crlf f.body }

variable {f : Fence}

theorem crlf_fence (o : Opening) (head inner closing : Text) :
    (o.fence head inner closing).crlf = o.fence (crlf head) (crlf inner) (crlf closing) := by
  simp only [Opening.fence, Fence.crlf, crlf_append, dropEndWhile_crlf (p := isLineEnd) (by decide)
    (by decide)]

/-- The lines of a fence open it and leave it open as before. -/
theorem opening?_and_closedBy_crlf {o : Opening} {head : Text} {inner : List Text}
    (hline : ∀ l ∈ head :: inner, IsLine l) (ho : opening? head = some o)
    (hinner : ∀ l ∈ inner, o.closedBy l = false) :
    opening? (crlf head) = some o ∧ ∀ l ∈ inner.map crlf, o.closedBy l = false := by
  rw [List.forall_mem_cons] at hline
  obtain ⟨hm, hn⟩ := marker_and_size_of_opening? ho
  refine ⟨by rw [opening?_crlf hline.1, ho], fun l hl => ?_⟩
  obtain ⟨k, hk, rfl⟩ := List.mem_map.1 hl
  rw [closedBy_crlf hm hn (hline.2 k hk), hinner k hk]

theorem Fence.IsClosed.crlf (h : f.IsClosed) : f.crlf.IsClosed := by
  obtain ⟨o, head, inner, closing, ho, hinner, hclosed, htrim, hlines, hf⟩ := h
  have hline (l : Text) (hl : l ∈ head :: (inner ++ [closing])) : IsLine l :=
    isLine_of_mem_lines (hlines ▸ hl)
  obtain ⟨ho', hinner'⟩ := opening?_and_closedBy_crlf
    (fun l hl => hline l (List.mem_append_left [closing] hl)) ho hinner
  have hclosing : Text.crlf closing = closing :=
    crlf_eq_self ((hline closing (by simp)).lf_notMem htrim)
  refine ⟨o, _, _, closing, ho', hinner', hclosed, htrim, ?_, ?_⟩
  · rw [Fence.crlf, lines_crlf, hlines, List.map_cons, List.map_append, List.map_singleton, hclosing]
  · rw [congrArg Fence.crlf hf, crlf_fence, crlf_flatten, hclosing]

theorem Fence.IsUnclosed.crlf (h : f.IsUnclosed) : f.crlf.IsUnclosed := by
  obtain ⟨o, head, inner, ho, hinner, hlines, hf⟩ := h
  obtain ⟨ho', hinner'⟩ := opening?_and_closedBy_crlf
    (fun l hl => isLine_of_mem_lines (hlines ▸ hl)) ho hinner
  refine ⟨o, _, _, ho', hinner', ?_, ?_⟩
  · rw [Fence.crlf, lines_crlf, hlines, List.map_cons]
  · rw [congrArg Fence.crlf hf, crlf_fence, crlf_flatten, crlf_nil]

theorem Segment.Ok.crlf_text {s : Text} (h : (Segment.text s).Ok) :
    (Segment.text (Text.crlf s)).Ok := by
  refine ⟨mt crlf_eq_nil_iff.1 h.1, fun l hl => ?_⟩
  rw [lines_crlf] at hl
  obtain ⟨k, hk, rfl⟩ := List.mem_map.1 hl
  exact not_opensFence_crlf (isLine_of_mem_lines hk) (h.2 k hk)

/-- A document with its line breaks changed has its segments with their line breaks changed. -/
theorem segments_crlf (text : Text) :
    segments (crlf text) = (segments text).map (Segment.map crlf Fence.crlf) := by
  have hraw : ((segments text).map (Segment.map crlf Fence.crlf)).flatMap Segment.raw =
      crlf ((segments text).flatMap Segment.raw) := by
    rw [List.flatMap_map, crlf_flatMap]
    exact List.flatMap_congr fun x _ => by cases x <;> rfl
  rw [segments_eq_iff, hraw, flatMap_raw_segments]
  refine ⟨(isSegmentation_segments text).map ?_ ?_, rfl⟩
  · exact fun s _ hok => ⟨hok.crlf_text, endsLine_crlf, startsBlank_crlf⟩
  · exact fun f _ => ⟨Fence.IsClosed.crlf, Fence.IsUnclosed.crlf⟩

/-! ### Code -/

theorem unindentLine_crlf (n : Nat) (l : Text) :
    unindentLine n (crlf l) = crlf (unindentLine n l) := by
  induction l generalizing n with
  | nil => cases n <;> rfl
  | cons c l ih =>
    cases n with
    | zero => simp only [unindentLine]
    | succ n =>
      rw [unindentLine]
      split_ifs with hc
      · have hne : c ≠ '\n' := by
          rintro rfl
          exact absurd hc (by decide)
        rw [crlf_cons_of_ne hne, unindentLine, if_pos hc, ih]
      · by_cases hne : c = '\n'
        · subst hne
          rfl
        · rw [crlf_cons_of_ne hne, unindentLine, if_neg hc]

/-- The code of a fence with its line breaks changed. -/
theorem Fence.code_crlf (f : Fence) : f.crlf.code = Text.crlf f.code := by
  rw [Fence.code, Fence.code, Fence.crlf, lines_crlf, List.flatMap_map, crlf_flatMap]
  simp only [unindentLine_crlf]

/-! ### Front matter -/

/-- Front matter with a carriage return before each line feed of the document. -/
def FrontMatter.crlf (f : FrontMatter) : FrontMatter :=
  ⟨Text.crlf f.opened, Text.crlf f.yaml, Text.crlf f.closed, Text.crlf f.body⟩

theorem FrontMatter.block_crlf (f : FrontMatter) : f.crlf.block = Text.crlf f.block := by
  simp [FrontMatter.block, FrontMatter.crlf]

theorem splitAtDelimiter_crlf (ls : List Text) : splitAtDelimiter (ls.map crlf) =
    (splitAtDelimiter ls).map fun (before, d, after) =>
      (before.map crlf, crlf d, after.map crlf) := by
  induction ls with
  | nil => rfl
  | cons l ls ih =>
    rw [List.map_cons, splitAtDelimiter, splitAtDelimiter, isDelimiter_crlf, ih]
    split_ifs
    · rfl
    · rw [Option.map_map, Option.map_map]
      rfl

/-- A document with its line breaks changed has its front matter with the line breaks changed. -/
theorem frontMatter?_crlf (text : Text) :
    frontMatter? (crlf text) = (frontMatter? text).map FrontMatter.crlf := by
  rw [frontMatter?, frontMatter?, lines_crlf]
  cases lines text with
  | nil => rfl
  | cons l ls =>
    simp only [List.map_cons, isDelimiter_crlf, splitAtDelimiter_crlf]
    split_ifs
    · rw [Option.map_map, Option.map_map]
      simp only [Function.comp_def, FrontMatter.crlf, crlf_flatten]
    · rfl

/-- The end of the front matter is changed with the document. -/
theorem map_byteSize_block_crlf (text : Text) :
    (frontMatter? (crlf text)).map (fun f => byteSize f.block) =
      (frontMatter? text).map (fun f => byteSize (crlf (takeBytes (byteSize f.block) text))) := by
  rw [frontMatter?_crlf, Option.map_map]
  refine Option.map_congr fun f hf => ?_
  rw [Function.comp_apply, f.block_crlf, ← block_append_body hf, takeBytes_byteSize_append]

end DocPreview.Document
