import DocPreview.Proofs.Document.Segmentation

/-!
# The fence that is open after some lines

A document is read line by line with the fence that is open as the only memory. The fence that is
open at the end of a text is the last of its segments, and it is the only fence of the text that is
not closed.

## Main definitions

* `openAfter`: the fence that is open after some lines.
* `EndsInFence`: segments of which the last one is a fence that is not closed.

## Main results

* `isSome_openAfter_iff`: a fence is open after a text iff the text ends in one.
-/

namespace DocPreview.Document

open Text

/-- The fence that is open after a line. -/
def nextOpen : Option Opening → Text → Option Opening
  | none, l => opening? l
  | some o, l => if o.closedBy l then none else some o

/-- The fence that is open after some lines. -/
def openAfter (o : Option Opening) (ls : List Text) : Option Opening := ls.foldl nextOpen o

/-- Segments of which the last one is a fence that is not closed. -/
def EndsInFence (segs : List Segment) : Prop :=
  ∃ f, segs.getLast? = some (.fence f) ∧ ¬ f.IsClosed

variable {segs : List Segment} {f : Fence} {o : Opening} {x : Scan}

theorem not_endsInFence_nil : ¬ EndsInFence [] := by
  rintro ⟨f, hf, -⟩
  cases hf

theorem endsInFence_cons_iff {y : Segment} (hne : segs ≠ []) :
    EndsInFence (y :: segs) ↔ EndsInFence segs := by
  rw [EndsInFence, EndsInFence, List.getLast?_cons_of_ne_nil hne]

theorem endsInFence_singleton_iff : EndsInFence [.fence f] ↔ ¬ f.IsClosed := by
  simp [EndsInFence]

theorem endsInFence_markup_append_iff (s : Text) :
    EndsInFence (markup s ++ segs) ↔ EndsInFence segs := by
  cases s with
  | nil => rfl
  | cons c s =>
    by_cases hne : segs = []
    · subst hne
      simp [markup, EndsInFence]
    · exact endsInFence_cons_iff hne

/-- A fence that no line closes is not closed. -/
theorem Fence.IsUnclosed.not_isClosed (h : f.IsUnclosed) : ¬ f.IsClosed := by
  obtain ⟨o, head, inner, ho, hinner, hlines, -⟩ := h
  rintro ⟨o', head', inner', closing, ho', -, hclosed, -, hlines', -⟩
  obtain ⟨rfl, rfl⟩ := List.cons.inj (hlines.symm.trans hlines')
  obtain rfl := Option.some.inj (ho.symm.trans ho')
  have hopen := hinner closing (by simp)
  rw [hclosed] at hopen
  cases hopen

/-- Whether no line closes the fence in which a scan begins. -/
def Scan.IsOpen (x : Scan) : Prop := x.closing = [] ∧ x.later = []

/-- What is found from an opening line on ends in a fence if no line closes the first one, or if
what is found behind it does. -/
theorem Scan.IsInside.endsInFence_iff (hx : x.IsInside o) {l : Text} (hl : IsLine l)
    (hend : EndsLine l ∨ x = ⟨[], [], []⟩) (ho : opening? l = some o) :
    EndsInFence (.fence (o.fence l x.current x.closing) :: x.later) ↔
      x.IsOpen ∨ EndsInFence x.later := by
  obtain ⟨inner, hinner, hcurrent, ⟨hlines, hclosing, hlater⟩ | ⟨hclosed, htrim, hlines, -⟩⟩ := hx
  · have hraw : lines (l ++ x.current) = l :: inner := by
      rw [hl.lines_append (hend.imp_right (by rintro rfl; rfl)), hlines]
    have hunclosed : (o.fence l x.current []).IsUnclosed :=
      ⟨o, l, inner, ho, hinner, by simpa [Opening.fence] using hraw, by rw [hcurrent]⟩
    rw [hclosing, hlater, endsInFence_singleton_iff]
    exact iff_of_true hunclosed.not_isClosed (Or.inl ⟨hclosing, hlater⟩)
  · have hopen : ¬ x.IsOpen := by
      rintro ⟨hnil, -⟩
      rw [hnil, closedBy_nil (marker_and_size_of_opening? ho).2] at hclosed
      cases hclosed
    have hf : (o.fence l x.current x.closing).IsClosed := by
      refine ⟨o, l, inner, x.closing, ho, hinner, hclosed, htrim, ?_, by rw [hcurrent]⟩
      rw [Opening.fence, List.append_assoc,
        hl.lines_append (hend.imp_right (by rintro rfl; rfl)), hlines]
    by_cases hne : x.later = []
    · rw [hne, endsInFence_singleton_iff]
      exact iff_of_false (not_not.2 hf) (not_or.2 ⟨hopen, not_endsInFence_nil⟩)
    · rw [endsInFence_cons_iff hne, or_iff_right hopen]

/-- What a scan of a text finds tells which fence is open after it. -/
theorem isSome_openAfter_scan (s : Text) :
    ((openAfter none (lines s)).isSome ↔ EndsInFence (scan none (lines s)).later) ∧
      ∀ o : Opening, isMarker o.marker → 0 < o.size → ((openAfter (some o) (lines s)).isSome ↔
        (scan (some o) (lines s)).IsOpen ∨ EndsInFence (scan (some o) (lines s)).later) := by
  induction s using line_induction with
  | nil => exact ⟨iff_of_false (by simp [openAfter]) not_endsInFence_nil,
      fun o _ _ => iff_of_true rfl (Or.inl ⟨rfl, rfl⟩)⟩
  | line l s hl hend ih =>
    have hscan (state : Option Opening) :
        EndsLine l ∨ scan state (lines s) = ⟨[], [], []⟩ := by
      refine hend.imp_right ?_
      rintro rfl
      cases state <;> rfl
    rw [hl.lines_append hend]
    refine ⟨?_, fun o hm hn => ?_⟩
    · rw [openAfter, List.foldl_cons, nextOpen, scan]
      cases ho : opening? l with
      | none => exact ih.1
      | some o =>
        obtain ⟨hm, hn⟩ := marker_and_size_of_opening? ho
        exact (ih.2 o hm hn).trans
          (((scan_lines s).2 o hm hn).endsInFence_iff hl (hscan (some o)) ho).symm
    · rw [openAfter, List.foldl_cons, nextOpen, scan]
      split_ifs with hclosed
      · have hopen : trimEnd l ≠ [] := by
          intro hnil
          obtain ⟨b, hb, hblank⟩ := exists_of_dropEndWhile isBlank l
          change l = trimEnd l ++ b at hb
          rw [hb, hnil, closedBy_append_of_blank hm hn hblank, closedBy_nil hn] at hclosed
          cases hclosed
        refine ih.1.trans ?_
        rw [endsInFence_markup_append_iff, or_iff_right fun h => hopen h.1]
      · exact ih.2 o hm hn

/-- A fence is open after a text if the last of its segments is one that is not closed. -/
theorem isSome_openAfter_iff (text : Text) :
    (openAfter none (lines text)).isSome ↔ EndsInFence (segments text) := by
  rw [segments, endsInFence_markup_append_iff]
  exact (isSome_openAfter_scan text).1

end DocPreview.Document
