import DocPreview.Document.Comment
import DocPreview.Proofs.Document.Fence
import DocPreview.Proofs.Text.Occurrence

/-!
# Escaping comments keeps the lines of fences

Writing comments as expressions puts characters into a text and removes none, and no character that
is put in is a line break or a marker. So no line of the text comes to open a fence. The end of a
line stays where it is, since a comment does not end in a line break, and so does a blank line at
the start.

## Main definitions

* `Padded`: a text with characters put in that are neither line breaks nor markers.

## Main results

* `padded_escapeComments`: escaping comments pads a text.
* `Padded.not_opensFence`: padding opens no fence.
-/

namespace DocPreview.Document

open Text

/-- A text and the same text with characters put in that are neither line breaks nor markers. -/
inductive Padded : Text → Text → Prop
  | nil : Padded [] []
  | keep (c : Char) {s t : Text} (h : Padded s t) : Padded (c :: s) (c :: t)
  | pad {c : Char} (hlf : c ≠ '\n') (hm : isMarker c = false) {s t : Text} (h : Padded s t) :
      Padded s (c :: t)

namespace Padded

variable {s t u v : Text}

theorem refl (s : Text) : Padded s s := by
  induction s with
  | nil => exact .nil
  | cons c s ih => exact ih.keep c

theorem append (hs : Padded s t) (hu : Padded u v) : Padded (s ++ u) (t ++ v) := by
  induction hs with
  | nil => exact hu
  | keep c _ ih => exact ih.keep c
  | pad hlf hm _ ih => exact ih.pad hlf hm

/-- Characters that may be put in. -/
theorem of_forall (h : ∀ c ∈ t, c ≠ '\n' ∧ isMarker c = false) : Padded [] t := by
  induction t with
  | nil => exact .nil
  | cons c t ih =>
    rw [List.forall_mem_cons] at h
    exact (ih h.2).pad h.1.1 h.1.2

theorem subset (h : Padded s t) : s ⊆ t := by
  induction h with
  | nil => exact List.Subset.refl _
  | keep c _ ih => exact List.cons_subset_cons c ih
  | pad _ _ _ ih => exact List.subset_cons_of_subset _ ih

theorem eq_nil (h : Padded s []) : s = [] := by
  cases h
  rfl

/-- The parts of a padded text are parts of the text, padded. -/
theorem exists_append (h : Padded s (u ++ v)) :
    ∃ s₁ s₂, s = s₁ ++ s₂ ∧ Padded s₁ u ∧ Padded s₂ v := by
  induction u generalizing s with
  | nil => exact ⟨[], s, rfl, .nil, h⟩
  | cons c u ih =>
    cases h with
    | keep _ h =>
      obtain ⟨s₁, s₂, rfl, h₁, h₂⟩ := ih h
      exact ⟨c :: s₁, s₂, rfl, h₁.keep c, h₂⟩
    | pad hlf hm h =>
      obtain ⟨s₁, s₂, rfl, h₁, h₂⟩ := ih h
      exact ⟨s₁, s₂, rfl, h₁.pad hlf hm, h₂⟩

/-- A line break or a marker is not put in. -/
theorem exists_cons {c : Char} (h : Padded s (c :: t)) (hc : c = '\n' ∨ isMarker c = true) :
    ∃ s', s = c :: s' ∧ Padded s' t := by
  cases h with
  | keep _ h => exact ⟨_, rfl, h⟩
  | pad hlf hm h => rcases hc with rfl | hc <;> simp_all

/-- Padding opens no fence. -/
theorem opensFence (h : Padded s t) (ht : OpensFence t) : OpensFence s := by
  obtain ⟨a, m, r, ha, hm, rfl⟩ := ht
  obtain ⟨a', s₁, rfl, ha', h₁⟩ := h.exists_append
  obtain ⟨s₂, rfl, h₂⟩ := h₁.exists_cons (Or.inr hm)
  obtain ⟨s₃, rfl, h₃⟩ := h₂.exists_cons (Or.inr hm)
  obtain ⟨r', rfl, -⟩ := h₃.exists_cons (Or.inr hm)
  exact ⟨a', m, r', fun c hc => ha c (ha'.subset hc), hm, rfl⟩

/-- A line of a padded text is a line of the text, padded, unless it was put in as a whole. -/
theorem exists_line (h : Padded s t) {l : Text} (hl : l ∈ lines t) :
    ∃ k, Padded k l ∧ (k = [] ∨ k ∈ lines s) := by
  induction t using line_induction generalizing s with
  | nil => cases hl
  | line l' t' hl' hend ih =>
    rw [hl'.lines_append hend] at hl
    obtain ⟨s₁, s₂, rfl, h₁, h₂⟩ := h.exists_append
    obtain ⟨c, x, hc, rfl⟩ := hl'
    obtain ⟨c', s₃, rfl, hc', h₃⟩ := h₁.exists_append
    have hlf : '\n' ∉ c' := fun hmem => hc (hc'.subset hmem)
    by_cases hx : x = '\n'
    · obtain ⟨s₄, rfl, h₄⟩ := h₃.exists_cons (Or.inl hx)
      obtain rfl := h₄.eq_nil
      rw [hx] at hl h₁ ⊢
      rw [(isLine_append_lf hlf).lines_append (Or.inl (endsLine_append_lf c'))]
      rcases List.mem_cons.1 hl with rfl | hl
      · exact ⟨_, h₁, Or.inr List.mem_cons_self⟩
      · obtain ⟨k, hk, hk_mem⟩ := ih h₂ hl
        exact ⟨k, hk, hk_mem.imp_right (List.mem_cons_of_mem _)⟩
    · obtain rfl : t' = [] := hend.resolve_left (by simp [EndsLine, hx])
      obtain rfl := h₂.eq_nil
      obtain rfl : l = c ++ [x] := by simpa using hl
      refine ⟨_, h₁, or_iff_not_imp_left.2 fun hne => ?_⟩
      have hlf : '\n' ∉ c' ++ s₃ := by
        intro hmem
        rcases List.mem_append.1 (h₁.subset hmem) with hmem | hmem
        · exact hc hmem
        · exact hx (List.mem_singleton.1 hmem).symm
      rw [List.append_nil, (isLine_of_notMem hlf hne).lines_eq]
      exact List.mem_singleton_self _

theorem not_opensFence (h : Padded s t) (hs : ∀ l ∈ lines s, ¬ OpensFence l) :
    ∀ l ∈ lines t, ¬ OpensFence l := by
  intro l hl hopens
  obtain ⟨k, hk, rfl | hk_mem⟩ := h.exists_line hl
  · exact not_opensFence_of_blank (by simp) (hk.opensFence hopens)
  · exact hs k hk_mem (hk.opensFence hopens)

end Padded

/-! ### Comments -/

/-- A comment stands between its opener and its closer. -/
theorem eq_append_of_comment? {s k rest : Text} (h : comment? s = some (k, rest)) :
    s = k ++ rest ∧ ∃ content, k = commentOpener ++ content ++ commentCloser := by
  simp only [comment?, Option.bind_eq_bind, Option.bind_eq_some_iff, Option.pure_def,
    Option.some.injEq, Prod.mk.injEq] at h
  obtain ⟨inner, hinner, ⟨content, r⟩, hfind, rfl, rfl⟩ := h
  rw [eq_append_of_after? hinner, eq_append_of_findText hfind]
  exact ⟨by simp only [List.append_assoc], content, rfl⟩

theorem padded_separateCloser (s : Text) : Padded s (separateCloser s) := by
  fun_induction separateCloser s with
  | case1 r ih => exact .keep _ (.pad (by decide) (by decide) (.keep _ ih))
  | case2 c r _ ih => exact .keep _ ih
  | case3 => exact .nil

theorem wrapComment_eq (k : Text) :
    wrapComment k = "\x7b/* ".toList ++ separateCloser k ++ " */\x7d".toList := rfl

theorem padded_wrapComment (k : Text) : Padded k (wrapComment k) := by
  have hopen : Padded [] "\x7b/* ".toList := .of_forall (by simp [isMarker])
  have hclose : Padded [] " */\x7d".toList := .of_forall (by simp [isMarker])
  have h := (hopen.append (padded_separateCloser k)).append hclose
  rw [List.nil_append, List.append_nil] at h
  exact h

/-- Writing comments as expressions pads the text. -/
theorem padded_escapeCommentsWithin (fuel : Nat) (s : Text) :
    Padded s (escapeCommentsWithin fuel s) := by
  fun_induction escapeCommentsWithin fuel s with
  | case1 s => exact .refl s
  | case2 => exact .nil
  | case3 fuel c r k rest h ih =>
    rw [(eq_append_of_comment? h).1]
    exact (padded_wrapComment k).append ih
  | case4 fuel c r _ ih => exact .keep c ih

theorem padded_escapeComments (s : Text) : Padded s (escapeComments s) :=
  padded_escapeCommentsWithin s.length s

@[simp] theorem escapeCommentsWithin_nil (fuel : Nat) : escapeCommentsWithin fuel [] = [] := by
  cases fuel <;> rfl

/-- A comment does not end in a line break, so the line break at the end of a text stays there. -/
theorem exists_escapeCommentsWithin_append_lf (fuel : Nat) (s : Text) :
    ∃ t, escapeCommentsWithin fuel (s ++ ['\n']) = t ++ ['\n'] := by
  induction fuel generalizing s with
  | zero => exact ⟨s, rfl⟩
  | succ fuel ih =>
    cases s with
    | nil =>
      have hnone : comment? ['\n'] = none := rfl
      exact ⟨[], by simp [escapeCommentsWithin, hnone]⟩
    | cons c s =>
      rw [List.cons_append, escapeCommentsWithin]
      split
      · rename_i k rest h
        obtain ⟨heq, content, hk⟩ := eq_append_of_comment? h
        cases rest using List.reverseRecOn with
        | nil =>
          have hlast : (k ++ []).getLast? = some '>' := by
            rw [List.append_nil, hk, List.getLast?_append]
            rfl
          rw [← heq, ← List.cons_append, List.getLast?_concat] at hlast
          cases hlast
        | append_singleton rest x =>
          rw [← List.cons_append, ← List.append_assoc] at heq
          obtain rfl : '\n' = x := by simpa using (List.append_inj' heq rfl).2
          obtain ⟨t, ht⟩ := ih rest
          exact ⟨wrapComment k ++ t, by rw [ht, List.append_assoc]⟩
      · obtain ⟨t, ht⟩ := ih s
        exact ⟨c :: t, by rw [ht]; rfl⟩

theorem endsLine_escapeComments {s : Text} (h : EndsLine s) : EndsLine (escapeComments s) := by
  rcases h with rfl | h
  · exact Or.inl rfl
  · obtain ⟨t, rfl⟩ := List.getLast?_eq_some_iff.1 h
    obtain ⟨t', ht'⟩ := exists_escapeCommentsWithin_append_lf (t ++ ['\n']).length t
    rw [escapeComments, ht']
    exact endsLine_append_lf t'

/-- What stands before the first angle bracket is in no comment. -/
theorem exists_escapeCommentsWithin_append {v : Text} (hv : '<' ∉ v) (fuel : Nat) (r : Text) :
    ∃ n, escapeCommentsWithin fuel (v ++ r) = v ++ escapeCommentsWithin n r := by
  induction v generalizing fuel with
  | nil => exact ⟨fuel, rfl⟩
  | cons c v ih =>
    rw [List.mem_cons, not_or] at hv
    cases fuel with
    | zero => exact ⟨0, rfl⟩
    | succ fuel =>
      have hnone : comment? (c :: (v ++ r)) = none := by
        simp [comment?, commentOpener, after?, hv.1]
      obtain ⟨n, hn⟩ := ih hv.2 fuel
      exact ⟨n, by rw [List.cons_append, escapeCommentsWithin, hnone, hn]; rfl⟩

theorem startsBlank_escapeComments {s : Text} (h : StartsBlank s) :
    StartsBlank (escapeComments s) := by
  obtain ⟨v, r, rfl, hv, hr⟩ := startsBlank_iff.1 h
  have hbracket : '<' ∉ v := fun hmem => absurd (hv _ hmem) (by decide)
  obtain ⟨n, hn⟩ := exists_escapeCommentsWithin_append hbracket (v ++ r).length r
  rw [escapeComments, hn]
  exact startsBlank_iff.2 ⟨v, _, rfl, hv, hr.imp_right (by rintro rfl; simp)⟩

end DocPreview.Document
