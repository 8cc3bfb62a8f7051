import DocPreview.Text.Basic
import DocPreview.Text.Unicode

/-!
# Letters and white space by their codes

What holds of every letter or of all white space is checked on the codes of these characters.

## Main results

* `of_isAlpha`, `of_isBlank`: what holds for the codes of letters and of white space.
* `isIdContinue_eq_false_of_isBlank`: white space stands in no name.
-/

namespace DocPreview.Text

theorem toNat_lt_of_isAlpha {c : Char} (h : c.isAlpha) : c.toNat < 0x80 := by
  have hcode : (decide (c.val ≥ 'A'.val ∧ c.val ≤ 'Z'.val) ||
      (decide (c.val ≥ 'a'.val) && decide (c.val ≤ 'z'.val))) = true := h
  simp only [Bool.or_eq_true, Bool.and_eq_true, decide_eq_true_eq, UInt32.le_iff_toNat_le] at hcode
  rcases hcode with ⟨-, h⟩ | ⟨-, h⟩ <;> exact Nat.lt_of_le_of_lt h (by decide)

/-- What holds for the letters among the characters of one byte holds for all letters. -/
theorem of_isAlpha {P : Char → Prop} {c : Char} (hc : c.isAlpha)
    (h : ∀ n < 0x80, (Char.ofNat n).isAlpha → P (Char.ofNat n)) : P c := by
  have hP := h c.toNat (toNat_lt_of_isAlpha hc)
  rw [Char.ofNat_toNat] at hP
  exact hP hc

/-- The code points of white space. -/
def blankCodes : List Nat :=
  List.range' 9 5 ++ [0x20, 0x85, 0xA0, 0x1680] ++ List.range' 0x2000 11 ++
    [0x2028, 0x2029, 0x202F, 0x205F, 0x3000]

theorem toNat_mem_blankCodes {c : Char} (h : isBlank c) : c.toNat ∈ blankCodes := by
  simp only [isBlank, Bool.or_eq_true, Bool.and_eq_true, decide_eq_true_eq] at h
  simp only [blankCodes, List.mem_append, List.mem_range'_1, List.mem_cons, List.not_mem_nil]
  omega

/-- What holds for the codes of white space holds for all white space. -/
theorem of_isBlank {P : Char → Prop} {c : Char} (hc : isBlank c)
    (h : ∀ n ∈ blankCodes, P (Char.ofNat n)) : P c := by
  have hP := h c.toNat (toNat_mem_blankCodes hc)
  rwa [Char.ofNat_toNat] at hP

/-- White space stands in no name. -/
theorem isIdContinue_eq_false_of_isBlank {c : Char} (hc : isBlank c) :
    Unicode.isIdContinue c = false :=
  of_isBlank (P := fun c => Unicode.isIdContinue c = false) hc (by decide +kernel)

end DocPreview.Text
