import DocPreview.Diagram.Substitution
import DocPreview.Proofs.Diagram.Fence
import DocPreview.Proofs.Text.Occurrence

/-!
# Fragments are out of the reach of fences

What a pass puts in the place of a block stands between angle brackets and on one line: neither the
id of a block nor the text of a failure brings in a line break. An opening line has no angle bracket
and a line break at its end, and a closing has a line break at its start. So no opening line and no
closing begins in a fragment, whatever follows it, and none that begins before a fragment reaches
it.

## Main definitions

* `IsInert`: a text on one line between angle brackets.

## Main results

* `isInert_fragment`: every fragment is inert.
* `IsInert.found?_eq_none`: no fence begins in an inert text.
* `IsInert.closing_infix_right`: closing characters after an inert text begin behind it.
-/

namespace DocPreview.Diagram

open Text

/-- A text on one line between angle brackets. -/
structure IsInert (s : Text) : Prop where
  shape : ∃ inner, s = '<' :: (inner ++ ['>'])
  lf_notMem : '\n' ∉ s

/-! ### The characters of fences -/

theorem langle_notMem_opening {d : Dialect} {o : Text} (h : IsOpening d o) : '<' ∉ o := by
  obtain ⟨b, rfl | rfl, rfl⟩ := h <;> cases d <;> decide

theorem rangle_notMem_opening {d : Dialect} {o : Text} (h : IsOpening d o) : '>' ∉ o := by
  obtain ⟨b, rfl | rfl, rfl⟩ := h <;> cases d <;> decide

theorem lf_mem_opening {d : Dialect} {o : Text} (h : IsOpening d o) : '\n' ∈ o := by
  obtain ⟨b, rfl | rfl, rfl⟩ := h <;> cases d <;> decide

theorem langle_notMem_closing : '<' ∉ closing := by decide

theorem langle_notMem_of_isClosing {e : Text} (h : IsClosing e) : '<' ∉ e := by
  obtain ⟨b, rfl | rfl, rfl⟩ := h <;> decide

theorem rangle_notMem_of_isClosing {e : Text} (h : IsClosing e) : '>' ∉ e := by
  obtain ⟨b, rfl | rfl, rfl⟩ := h <;> decide

theorem lf_mem_of_isClosing {e : Text} (h : IsClosing e) : '\n' ∈ e := by
  obtain ⟨b, rfl | rfl, rfl⟩ := h <;> decide

/-! ### The characters of fragments -/

/-- The text of a failure is written without characters that markup reads in its own way and
without line ends. -/
theorem notMem_inlineText {x : Char} (hx : x ∈ ['<', '>', '\x7b', '\x7d', '\r', '\n']) (s : Text) :
    x ∉ inlineText s := by
  intro h
  obtain ⟨c, -, hc⟩ := List.mem_flatMap.1 h
  have key : ∀ y ∈ inlineChar c, y ∉ ['<', '>', '\x7b', '\x7d', '\r', '\n'] := by
    unfold inlineChar
    split
    case h_8 => simp_all
    all_goals simp
  exact key x hc hx

/-- An id consists of letters, digits and a hyphen. -/
theorem isAlphanum_of_mem_diagramId {d : Dialect} {i : Nat} {x : Char}
    (h : x ∈ (diagramId d i).toList) : x.isAlphanum ∨ x = '-' := by
  rw [diagramId, String.toList_append, String.toList_append, List.mem_append,
    List.mem_append] at h
  rcases h with (h | h) | h
  · have key : ∀ y ∈ d.idStart.toList, y.isAlphanum := by
      cases d <;> simp [Dialect.idStart, Dialect.label]
    exact Or.inl (key x h)
  · exact Or.inr (List.mem_singleton.1 h)
  · have hdigit := Nat.isDigit_of_mem_toDigits (by decide) (by decide) (Nat.toList_repr ▸ h)
    exact Or.inl (by simp [Char.isAlphanum, hdigit])

theorem notMem_diagramId {x : Char} (hx : (x.isAlphanum || x == '-') = false) (d : Dialect)
    (i : Nat) : x ∉ (diagramId d i).toList := by
  intro h
  rcases isAlphanum_of_mem_diagramId h with h | rfl
  · simp [h] at hx
  · simp at hx

theorem isInert_placeholder (d : Dialect) (i : Nat) : IsInert (placeholder (diagramId d i)) where
  shape := ⟨"div id=\"".toList ++ (diagramId d i).toList ++ "\"></div".toList, by
    simp [placeholder]⟩
  lf_notMem := by simpa [placeholder] using notMem_diagramId (x := '\n') (by decide) d i

/-- The parts of a failure's paragraph; unfolding the definition itself is slow. -/
theorem failureParagraph_eq (d : Dialect) (e : Failure) : failureParagraph d e =
    "<p>".toList ++ d.displayName.toList ++ " Error: ".toList ++
      inlineText e.message.toList ++ "</p>".toList := rfl

theorem isInert_failureParagraph (d : Dialect) (e : Failure) :
    IsInert (failureParagraph d e) where
  shape := ⟨"p>".toList ++ d.displayName.toList ++ " Error: ".toList ++
    inlineText e.message.toList ++ "</p".toList, by simp [failureParagraph_eq]⟩
  lf_notMem := by
    have h := notMem_inlineText (x := '\n') (by decide) e.message.toList
    cases d <;> simpa [failureParagraph_eq, Dialect.displayName] using h

/-- What stands in the place of a block is inert. -/
theorem isInert_fragment (d e : Dialect) (i : Nat) (outcome : Except Failure String) :
    IsInert (fragment d (diagramId e i) outcome) := by
  cases outcome with
  | ok svg => exact isInert_placeholder e i
  | error failure => exact isInert_failureParagraph d failure

/-! ### Closing characters -/

/-- Closing characters begin with a line break. -/
theorem closing_infix_of_append {t w : Text} (hlf : '\n' ∉ t) (h : closing <:+: t ++ w) :
    closing <:+: w := by
  induction t with
  | nil => exact h
  | cons c t ih =>
    rcases List.infix_cons_iff.1 h with h | h
    · have hc : '\n' = c := (List.cons_prefix_cons.1 h).1
      exact absurd (hc ▸ List.mem_cons_self) hlf
    · exact ih (fun hm => hlf (List.mem_cons_of_mem _ hm)) h

/-! ### No fence begins in an inert text -/

namespace IsInert

variable {s v w : Text}

theorem ne_nil (hs : IsInert s) : s ≠ [] := by
  obtain ⟨inner, rfl⟩ := hs.shape
  exact List.cons_ne_nil _ _

/-- Suffixes of an inert text end with its bracket. -/
theorem exists_of_suffix (hs : IsInert s) (hv : v <:+ s) (hne : v ≠ []) :
    ∃ u, v = u ++ ['>'] ∧ '\n' ∉ v := by
  obtain ⟨inner, hshape⟩ := hs.shape
  obtain ⟨t, ht⟩ := hv
  have hlast : v.getLast hne = '>' := by
    have h : (t ++ v).getLast (by simp [hne]) = '>' := by
      simp only [ht, hshape, ← List.cons_append, List.getLast_append_singleton]
    rwa [List.getLast_append_of_ne_nil _ hne] at h
  refine ⟨v.dropLast, ?_, fun h => hs.lf_notMem (ht ▸ List.mem_append_right t h)⟩
  rw [← hlast, List.dropLast_append_getLast]

/-- No fence begins in an inert text. -/
theorem found?_eq_none (hs : IsInert s) (hv : v <:+ s) (hne : v ≠ []) (d : Dialect) (w : Text) :
    found? d (v ++ w) = none := by
  refine found?_eq_none_iff.2 fun o inner ho heq _ => ?_
  obtain ⟨u, rfl, hlf⟩ := hs.exists_of_suffix hv hne
  have hpre : o <+: u ++ '>' :: w := ⟨inner, by rw [← heq, List.append_assoc]; rfl⟩
  have hmem := (prefix_of_prefix_append_cons (rangle_notMem_opening ho) hpre).subset
    (lf_mem_opening ho)
  exact hlf (List.mem_append_left _ hmem)

/-- No closing begins in an inert text. -/
theorem closing?_eq_none (hs : IsInert s) (hv : v <:+ s) (hne : v ≠ []) (w : Text) :
    closing? (v ++ w) = none := by
  refine closing?_eq_none_iff.2 fun e he hpre => ?_
  obtain ⟨u, rfl, hlf⟩ := hs.exists_of_suffix hv hne
  rw [List.append_assoc] at hpre
  have hmem := (prefix_of_prefix_append_cons (rangle_notMem_of_isClosing he) hpre).subset
    (lf_mem_of_isClosing he)
  exact hlf (List.mem_append_left _ hmem)

/-- Closing characters do not begin in an inert text. -/
theorem closing_infix_right (hs : IsInert s) (h : closing <:+: s ++ w) : closing <:+: w :=
  closing_infix_of_append hs.lf_notMem h

/-- Closing characters around an inert text are before it or after it. -/
theorem closing_infix_append (hs : IsInert s) (h : closing <:+: v ++ (s ++ w)) :
    closing <:+: v ∨ closing <:+: w := by
  obtain ⟨inner, hshape⟩ := hs.shape
  rcases List.infix_append_iff.1 h with h | h | ⟨p, q, hpq, hp, hq⟩
  · exact Or.inl h
  · exact Or.inr (hs.closing_infix_right h)
  · refine Or.inl ?_
    cases q with
    | nil =>
      rw [List.append_nil] at hpq
      exact hpq ▸ hp.isInfix
    | cons x q =>
      rw [hshape, List.cons_append, List.cons_prefix_cons] at hq
      have hmem : '<' ∈ closing := by
        rw [hpq, hq.1]
        exact List.mem_append_right _ List.mem_cons_self
      exact absurd hmem langle_notMem_closing

end IsInert

end DocPreview.Diagram
