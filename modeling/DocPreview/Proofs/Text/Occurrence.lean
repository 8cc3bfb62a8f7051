import DocPreview.Text.Basic
import Mathlib.Data.List.Infix

/-!
# Where a text occurs in another one

A text is found at its first occurrence in another one. An occurrence in a concatenation lies in one
of the parts, or reaches over the border; a character that a text does not have separates what is
around it.

## Main results

* `findText_eq_some_iff`, `findText_eq_none_iff`: the first occurrence of a text.
* `prefix_of_prefix_append_cons`, `infix_append_cons_of_notMem`: occurrences around a character.
* `suffix_append_cases`: the suffixes of a concatenation.
-/

namespace DocPreview.Text

variable {pat s a b : Text}

/-! ### Prefixes and suffixes of a concatenation -/

/-- A prefix that lacks a character ends before it. -/
theorem prefix_of_prefix_append_cons {p a b : Text} {c : Char} (hc : c ∉ p)
    (h : p <+: a ++ c :: b) : p <+: a := by
  rcases List.prefix_or_prefix_of_prefix h (List.prefix_append a (c :: b)) with hp | ⟨t, rfl⟩
  · exact hp
  · cases t with
    | nil => rw [List.append_nil]
    | cons x t =>
      rw [List.prefix_append_right_inj, List.cons_prefix_cons] at h
      exact absurd (by simp [h.1]) hc

/-- A suffix of a concatenation is a suffix of the second part, or begins in the first one. -/
theorem suffix_append_cases {t a b : Text} (h : t <:+ a ++ b) :
    t <:+ b ∨ ∃ v, v ≠ [] ∧ v <:+ a ∧ t = v ++ b := by
  induction a with
  | nil => exact Or.inl h
  | cons x a ih =>
    rcases List.suffix_cons_iff.1 h with rfl | h
    · exact Or.inr ⟨x :: a, List.cons_ne_nil _ _, List.suffix_rfl, rfl⟩
    · rcases ih h with h | ⟨v, hne, hv, rfl⟩
      · exact Or.inl h
      · exact Or.inr ⟨v, hne, hv.trans (List.suffix_cons ..), rfl⟩

/-- What stands before the first of two equal characters is determined. -/
theorem eq_of_append_cons_eq {a b s t : Text} {c : Char} (ha : c ∉ a) (hb : c ∉ b)
    (h : a ++ c :: s = b ++ c :: t) : a = b := by
  rcases List.append_eq_append_iff.1 h with ⟨u, rfl, hu⟩ | ⟨u, rfl, hu⟩
  · cases u with
    | nil => rw [List.append_nil]
    | cons x u =>
      rw [List.cons_append, List.cons.injEq] at hu
      exact absurd (hu.1 ▸ List.mem_append_right a List.mem_cons_self) hb
  · cases u with
    | nil => rw [List.append_nil]
    | cons x u =>
      rw [List.cons_append, List.cons.injEq] at hu
      exact absurd (hu.1 ▸ List.mem_append_right b List.mem_cons_self) ha

/-- A character that is not in a text separates what is around it. -/
theorem infix_append_cons_of_notMem {p a b : Text} {c : Char} (hc : c ∉ p)
    (h : p <:+: a ++ c :: b) : p <:+: a ∨ p <:+: b := by
  induction a with
  | nil =>
    rcases List.infix_cons_iff.1 h with h | h
    · exact Or.inl (prefix_of_prefix_append_cons (a := []) hc h).isInfix
    · exact Or.inr h
  | cons x a ih =>
    rcases List.infix_cons_iff.1 h with h | h
    · exact Or.inl (prefix_of_prefix_append_cons (a := x :: a) hc h).isInfix
    · exact (ih h).imp (fun h => h.trans (List.suffix_cons ..).isInfix) id

/-! ### First occurrences -/

theorem after?_eq_some_iff : after? pat s = some b ↔ s = pat ++ b :=
  ⟨eq_append_of_after?, fun h => h ▸ after?_append pat b⟩

theorem after?_eq_none_iff : after? pat s = none ↔ ¬ pat <+: s := by
  rw [Option.eq_none_iff_forall_not_mem]
  constructor
  · rintro h ⟨b, hb⟩
    exact h b (after?_eq_some_iff.2 hb.symm)
  · intro h b hb
    exact h ⟨b, (after?_eq_some_iff.1 hb).symm⟩

theorem eq_append_of_findText (h : findText pat s = some (a, b)) :
    s = a ++ (pat ++ b) := by
  induction s generalizing a with
  | nil =>
    rw [findText] at h
    split_ifs at h with hpat
    cases h
    rw [List.isEmpty_iff] at hpat
    rw [hpat]
    rfl
  | cons c r ih =>
    rw [findText] at h
    split at h
    · rename_i rest hrest
      cases h
      rw [List.nil_append]
      exact eq_append_of_after? hrest
    · obtain ⟨⟨a', b'⟩, hfind, heq⟩ := Option.map_eq_some_iff.1 h
      obtain ⟨rfl, rfl⟩ := Prod.mk.inj heq
      rw [ih hfind]
      rfl

/-- A text is not found exactly if it does not occur. -/
theorem findText_eq_none_iff : findText pat s = none ↔ ¬ pat <:+: s := by
  induction s with
  | nil => cases pat <;> simp [findText]
  | cons x s ih =>
    rw [findText, List.infix_cons_iff, not_or, ← after?_eq_none_iff, ← ih]
    cases after? pat (x :: s) <;> simp

theorem length_le_of_findText (h : findText pat s = some (a, b)) {a' b' : Text}
    (hs : s = a' ++ (pat ++ b')) : a.length ≤ a'.length := by
  induction s generalizing a a' with
  | nil =>
    rw [findText] at h
    split_ifs at h
    cases h
    exact Nat.zero_le _
  | cons x s ih =>
    rw [findText] at h
    split at h
    · cases h
      exact Nat.zero_le _
    · next hnone =>
      obtain ⟨⟨a, b⟩, hfind, heq⟩ := Option.map_eq_some_iff.1 h
      cases heq
      cases a' with
      | nil => exact absurd ⟨b', hs.symm⟩ (after?_eq_none_iff.1 hnone)
      | cons y a' => exact Nat.succ_le_succ (ih hfind (List.cons.inj hs).2)

/-- A text is found where it occurs first. -/
theorem findText_eq_some_iff : findText pat s = some (a, b) ↔
    s = a ++ (pat ++ b) ∧ ∀ a' b', s = a' ++ (pat ++ b') → a.length ≤ a'.length := by
  constructor
  · exact fun h => ⟨eq_append_of_findText h, fun a' b' => length_le_of_findText h⟩
  · rintro ⟨hs, hfirst⟩
    cases hfind : findText pat s with
    | none => exact absurd ⟨a, b, by rw [hs, List.append_assoc]⟩ (findText_eq_none_iff.1 hfind)
    | some p =>
      have hs' := eq_append_of_findText hfind
      have hlength : a.length = p.1.length :=
        (hfirst p.1 p.2 hs').antisymm (length_le_of_findText hfind hs)
      obtain ⟨ha, hrest⟩ := List.append_inj (hs.symm.trans hs') hlength
      rw [ha, List.append_cancel_left hrest]

end DocPreview.Text
