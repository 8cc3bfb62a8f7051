import DocPreview.Text.Basic
import Mathlib.Data.List.Infix

/-!
# Character references

A text that is to be read literally is written in pieces: a character with a meaning of its own
becomes a character reference such as `&amp;`, any other character stands for itself, and markup is
put between such pieces. A character of the whole text stands in one of its pieces, so what holds
of its places is read off the pieces. In particular, if an ampersand occurs in no piece that is not
a reference, every ampersand of the text begins a reference.

## Main definitions

* `Text.RefersTo`: the texts in which every ampersand begins one of some references.

## Main results

* `exists_piece_of_flatten_eq`: the piece in which a character of a text stands.
* `refersTo_flatten`: texts put together from references and pieces without ampersands.
-/

namespace DocPreview.Text

/-- Every ampersand of a text begins one of the references `refs`. -/
def RefersTo (refs : List Text) (s : Text) : Prop :=
  ∀ x y, s = x ++ '&' :: y → ∃ r ∈ refs, r <+: '&' :: y

/-- A character of a text that is put together from pieces stands in one of them. -/
theorem exists_piece_of_flatten_eq {ps : List Text} {x y : Text} {c : Char}
    (h : ps.flatten = x ++ c :: y) : ∃ qs a b rs, ps = qs ++ (a ++ c :: b) :: rs ∧
      x = qs.flatten ++ a ∧ y = b ++ rs.flatten := by
  induction ps generalizing x with
  | nil => simp at h
  | cons p ps ih =>
    rw [List.flatten_cons, List.append_eq_append_iff] at h
    rcases h with ⟨t, rfl, h⟩ | ⟨t, rfl, h⟩
    · obtain ⟨qs, a, b, rs, rfl, rfl, rfl⟩ := ih h
      exact ⟨p :: qs, a, b, rs, rfl, by rw [List.flatten_cons, List.append_assoc], rfl⟩
    · cases t with
      | nil =>
        obtain ⟨qs, a, b, rs, rfl, ha, rfl⟩ := ih (x := []) h.symm
        exact ⟨(x ++ []) :: qs, a, b, rs, rfl, by simp [ha], rfl⟩
      | cons d t =>
        obtain ⟨rfl, rfl⟩ := List.cons.inj h
        exact ⟨[], x, t, ps, rfl, rfl, rfl⟩

/-- A text refers to some references if its pieces are references or have no ampersand. -/
theorem refersTo_flatten {refs ps : List Text} (hrefs : ∀ r ∈ refs, ∃ t, r = '&' :: t ∧ '&' ∉ t)
    (h : ∀ p ∈ ps, p ∈ refs ∨ '&' ∉ p) : RefersTo refs ps.flatten := by
  intro x y hxy
  obtain ⟨qs, a, b, rs, rfl, -, rfl⟩ := exists_piece_of_flatten_eq hxy
  have hamp : '&' ∈ a ++ '&' :: b := List.mem_append_right a List.mem_cons_self
  have href := (h (a ++ '&' :: b) (by simp)).resolve_right (not_not_intro hamp)
  obtain ⟨t, ht, hnot⟩ := hrefs _ href
  cases a with
  | nil => exact ⟨'&' :: b, href, List.prefix_append ('&' :: b) rs.flatten⟩
  | cons d a =>
    rw [List.cons_append] at ht
    exact absurd ((List.cons.inj ht).2 ▸ List.mem_append_right a List.mem_cons_self) hnot

end DocPreview.Text
