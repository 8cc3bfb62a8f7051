import DocPreview.Artifact.Sanitize
import DocPreview.Proofs.Text.Character
import DocPreview.Proofs.Text.Line
import Mathlib.Data.List.Infix

/-!
# Words of an artifact

Whether a text mentions a word does not depend on the white space around the text, since a word has
none in it and white space is no character of a word.

## Main results

* `isWord_of_isAlpha`, `isWord_eq_false_of_isBlank`: letters stand in words, white space does not.
* `mentions_append_cons`: a word that is mentioned behind a character of no word.
* `mentions_trim`: the white space around a text does not matter.
* `mentions_append_cons_of_notMem`: what is mentioned around a character that no word has.
-/

namespace DocPreview.Artifact

open Text

/-- A letter is a character of a word. -/
theorem isWord_of_isAlpha {c : Char} (h : c.isAlpha) : Unicode.isWord c := by
  have hlt := toNat_lt_of_isAlpha h
  have hname : Unicode.isNonWordName c.toNat = false := by
    simp only [Unicode.isNonWordName, Bool.or_eq_false_iff, Bool.and_eq_false_iff,
      decide_eq_false_iff_not]
    omega
  simp [Unicode.isWord, Unicode.isIdContinue, hlt, hname, Char.isAlphanum, h]

/-- White space is no character of a word. -/
theorem isWord_eq_false_of_isBlank {c : Char} (h : isBlank c) : Unicode.isWord c = false := by
  have hword : ∀ n ∈ blankCodes, Unicode.isNonNameWord n = false := by decide +kernel
  rw [Unicode.isWord, isIdContinue_eq_false_of_isBlank h, hword _ (toNat_mem_blankCodes h)]
  rfl

variable {word a b s : Text}

/-! ### Mentions -/

/-- A word is mentioned in a text if it is mentioned behind a part of the text. -/
theorem mentionsFrom_append_cons {c : Char} (h : mentionsFrom word (Unicode.isWord c) s)
    (afterWord : Bool) : mentionsFrom word afterWord (a ++ c :: s) := by
  induction a generalizing afterWord with
  | nil => rw [List.nil_append, mentionsFrom, h, Bool.or_true]
  | cons d a ih => rw [List.cons_append, mentionsFrom, ih, Bool.or_true]

theorem mentions_append_cons {c : Char} (hc : Unicode.isWord c = false) (h : mentions word s) :
    mentions word (a ++ c :: s) :=
  mentionsFrom_append_cons (hc ▸ h) false

/-- A text that starts with white space starts with no word. -/
theorem after?_of_isBlank {c : Char} (hc : isBlank c) (hne : word ≠ [])
    (hword : ∀ d ∈ word, ¬ isBlank d) : after? word (c :: s) = none := by
  obtain ⟨d, word, rfl⟩ := List.exists_cons_of_ne_nil hne
  refine if_neg ?_
  rintro rfl
  exact hword d List.mem_cons_self hc

theorem mentions_blank_append (ha : ∀ c ∈ a, isBlank c) (hne : word ≠ [])
    (hword : ∀ d ∈ word, ¬ isBlank d) : mentions word (a ++ s) = mentions word s := by
  induction a with
  | nil => rfl
  | cons c a ih =>
    have hc := ha c List.mem_cons_self
    rw [← ih fun d hd => ha d (List.mem_cons_of_mem _ hd), mentions, List.cons_append, mentionsFrom,
      after?_of_isBlank hc hne hword, isWord_eq_false_of_isBlank hc]
    simp [mentions]

/-- White space behind a text is no part of a word at its start. -/
theorem after?_append_blank (hb : ∀ c ∈ b, isBlank c) (hword : ∀ d ∈ word, ¬ isBlank d) :
    after? word (s ++ b) = (after? word s).map (· ++ b) := by
  induction word generalizing s with
  | nil => simp [after?]
  | cons d word ih =>
    have hd := hword d List.mem_cons_self
    cases s with
    | nil =>
      cases b with
      | nil => rfl
      | cons c b =>
        have hc := hb c List.mem_cons_self
        rw [List.nil_append, after?_of_isBlank hc (List.cons_ne_nil _ _) hword]
        rfl
    | cons c s =>
      rw [List.cons_append, after?, after?]
      split
      · exact ih fun e he => hword e (List.mem_cons_of_mem _ he)
      · rfl

theorem startsWithWord_append_blank (hb : ∀ c ∈ b, isBlank c) (s : Text) :
    startsWithWord (s ++ b) = startsWithWord s := by
  cases s with
  | cons c s => rfl
  | nil =>
    cases b with
    | nil => rfl
    | cons c b => exact isWord_eq_false_of_isBlank (hb c List.mem_cons_self)

theorem mentionsFrom_append_blank (hb : ∀ c ∈ b, isBlank c) (hne : word ≠ [])
    (hword : ∀ d ∈ word, ¬ isBlank d) (afterWord : Bool) :
    mentionsFrom word afterWord (s ++ b) = mentionsFrom word afterWord s := by
  induction s generalizing afterWord with
  | nil =>
    induction b generalizing afterWord with
    | nil => rfl
    | cons c b ih =>
      have hnone : after? word (c :: b) = none :=
        after?_of_isBlank (hb c List.mem_cons_self) hne hword
      simp only [List.nil_append, mentionsFrom, hnone, Bool.and_false, Bool.false_or] at ih ⊢
      exact ih (fun d hd => hb d (List.mem_cons_of_mem _ hd)) _
  | cons c s ih =>
    rw [List.cons_append, mentionsFrom, mentionsFrom, ih, ← List.cons_append,
      after?_append_blank hb hword]
    cases after? word (c :: s) with
    | none => rfl
    | some r => simp only [Option.map_some, startsWithWord_append_blank hb]

/-- The white space at the end of a text does not matter for the words in it. -/
theorem mentions_trimEnd (hne : word ≠ []) (hword : ∀ d ∈ word, ¬ isBlank d) (s : Text) :
    mentions word (trimEnd s) = mentions word s := by
  obtain ⟨b, hs, hb⟩ := exists_of_dropEndWhile isBlank s
  conv_rhs => rw [hs]
  exact (mentionsFrom_append_blank hb hne hword false).symm

/-- The white space around a text does not matter for the words in it. -/
theorem mentions_trim (hne : word ≠ []) (hword : ∀ d ∈ word, ¬ isBlank d) (s : Text) :
    mentions word (trim s) = mentions word s := by
  have hstart : s = s.takeWhile isBlank ++ trimStart s := List.takeWhile_append_dropWhile.symm
  rw [trim, mentions_trimEnd hne hword]
  conv_rhs => rw [hstart]
  exact (mentions_blank_append (fun c hc => List.mem_takeWhile_imp hc) hne hword).symm

/-! ### Mentions around a character -/

/-- A character that is not in a word separates the texts around it. -/
theorem after?_append_cons_of_notMem {c : Char} (hc : c ∉ word) :
    after? word (a ++ c :: s) = (after? word a).map (· ++ c :: s) := by
  induction word generalizing a with
  | nil => simp [after?]
  | cons d word ih =>
    obtain ⟨hne, hc⟩ := List.ne_and_not_mem_of_not_mem_cons hc
    cases a with
    | nil => exact if_neg (Ne.symm hne)
    | cons x a =>
      rw [List.cons_append, after?, after?]
      split
      · exact ih hc
      · rfl

theorem startsWithWord_append_cons {c : Char} (hc : Unicode.isWord c = false) (a s : Text) :
    startsWithWord (a ++ c :: s) = startsWithWord a := by
  cases a with
  | nil => exact hc
  | cons x a => rfl

theorem mentionsFrom_append_cons_of_notMem {c : Char} (hc : Unicode.isWord c = false)
    (hne : word ≠ []) (hword : c ∉ word) (afterWord : Bool) :
    mentionsFrom word afterWord (a ++ c :: s) =
      (mentionsFrom word afterWord a || mentions word s) := by
  induction a generalizing afterWord with
  | nil =>
    have hnone : after? word [] = none := by
      obtain ⟨d, word, rfl⟩ := List.exists_cons_of_ne_nil hne
      rfl
    have hhere := after?_append_cons_of_notMem (a := []) (s := s) hword
    rw [hnone, List.nil_append] at hhere
    simp only [List.nil_append, mentionsFrom, hhere, hc, Option.map_none, Bool.and_false]
    rfl
  | cons x a ih =>
    rw [List.cons_append, mentionsFrom, mentionsFrom, ih, ← List.cons_append,
      after?_append_cons_of_notMem hword, ← Bool.or_assoc]
    cases after? word (x :: a) with
    | none => rfl
    | some r => simp only [Option.map_some, startsWithWord_append_cons hc]

/-- What is mentioned around a character that no word has. -/
theorem mentions_append_cons_of_notMem {c : Char} (hc : Unicode.isWord c = false)
    (hne : word ≠ []) (hword : c ∉ word) :
    mentions word (a ++ c :: s) = (mentions word a || mentions word s) :=
  mentionsFrom_append_cons_of_notMem hc hne hword false

end DocPreview.Artifact
