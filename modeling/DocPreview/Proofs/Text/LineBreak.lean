import DocPreview.Proofs.Text.Line

/-!
# The two line breaks

A text can end its lines with a line feed alone or with a carriage return and a line feed. `crlf`
takes a text from the first convention to the second. It works on each line for itself and changes
only white space at line ends, so it commutes with cutting into lines and with trimming, and leaves
what stands in one line.

## Main definitions

* `crlf`: a text with a carriage return before each line feed.

## Main results

* `lines_crlf`: the lines of the changed text are the changed lines.
* `dropEndWhile_crlf`: trimming the end of the changed text.
* `IsLine.exists_blank`: a line and the changed line differ in white space at their ends.
-/

namespace DocPreview.Text

/-- A text with a carriage return before each line feed. -/
def crlf (s : Text) : Text := replaceChar '\n' ['\r', '\n'] s

variable {p : Char → Bool} {s : Text}

@[simp] theorem crlf_nil : crlf [] = [] := rfl

@[simp] theorem crlf_append (a b : Text) : crlf (a ++ b) = crlf a ++ crlf b :=
  List.flatMap_append

@[simp] theorem crlf_cons_lf (s : Text) : crlf ('\n' :: s) = '\r' :: '\n' :: crlf s := rfl

theorem crlf_cons_of_ne {c : Char} (hc : c ≠ '\n') (s : Text) : crlf (c :: s) = c :: crlf s := by
  rw [crlf, replaceChar, List.flatMap_cons, if_neg hc]
  rfl

theorem crlf_flatMap {α : Type} (f : α → Text) (xs : List α) :
    crlf (xs.flatMap f) = xs.flatMap fun x => crlf (f x) :=
  List.flatMap_assoc

theorem crlf_flatten (ls : List Text) : crlf ls.flatten = (ls.map crlf).flatten := by
  rw [← List.flatMap_id, crlf_flatMap, List.flatMap_def]
  rfl

theorem crlf_eq_self (h : '\n' ∉ s) : crlf s = s := by
  induction s with
  | nil => rfl
  | cons c s ih =>
    rw [List.mem_cons, not_or] at h
    rw [crlf_cons_of_ne (Ne.symm h.1), ih h.2]

theorem mem_crlf {c : Char} (h : c ∈ crlf s) : c ∈ s ∨ c = '\r' := by
  rw [crlf, replaceChar, List.mem_flatMap] at h
  obtain ⟨d, hd, hc⟩ := h
  split_ifs at hc with hlf
  · rcases List.mem_pair.1 hc with rfl | rfl
    · exact Or.inr rfl
    · exact Or.inl (hlf ▸ hd)
  · exact Or.inl (List.mem_singleton.1 hc ▸ hd)

/-- Only texts without line feeds are changed into texts without line feeds. -/
theorem crlf_eq_iff {r : Text} (hr : '\n' ∉ r) : crlf s = r ↔ s = r := by
  constructor
  · rintro rfl
    by_cases hs : '\n' ∈ s
    · obtain ⟨a, b, rfl⟩ := List.append_of_mem hs
      simp at hr
    · exact (crlf_eq_self hs).symm
  · rintro rfl
    exact crlf_eq_self hr

theorem crlf_eq_nil_iff : crlf s = [] ↔ s = [] := crlf_eq_iff List.not_mem_nil

/-- Trimming line ends off the changed text. -/
theorem dropEndWhile_crlf (hlf : p '\n') (hcr : p '\r') (s : Text) :
    dropEndWhile p (crlf s) = crlf (dropEndWhile p s) := by
  obtain ⟨b, hs, hb⟩ := exists_of_dropEndWhile p s
  have hkept : dropEndWhile p (dropEndWhile p s) = dropEndWhile p s := dropEndWhile_idem p s
  generalize dropEndWhile p s = a at hs hkept ⊢
  subst hs
  rw [crlf_append, dropEndWhile_append_of_pos fun c hc => ?_, dropEndWhile_eq_self_iff]
  · intro c hc
    cases a using List.reverseRecOn with
    | nil => cases hc
    | append_singleton a x =>
      -- What is kept does not end in a line feed, so its last character stays the same.
      have hx : ¬ p x := dropEndWhile_eq_self_iff.1 hkept x (by simp)
      have hx_ne : x ≠ '\n' := by
        rintro rfl
        exact hx hlf
      rw [crlf_append, crlf_cons_of_ne hx_ne] at hc
      obtain rfl : x = c := by simpa using hc
      exact hx
  · rcases mem_crlf hc with hc | rfl
    · exact hb c hc
    · exact hcr

/-! ### Lines -/

/-- A line and the changed line differ in white space at their ends. -/
theorem IsLine.exists_blank {l : Text} (h : IsLine l) : ∃ c v w, '\n' ∉ c ∧ l = c ++ v ∧
    crlf l = c ++ w ∧ (∀ x ∈ v, isBlank x) ∧ ∀ x ∈ w, isBlank x := by
  obtain ⟨c, x, hc, rfl⟩ := h
  by_cases hx : x = '\n'
  · subst hx
    exact ⟨c, ['\n'], ['\r', '\n'], hc, rfl, by rw [crlf_append, crlf_eq_self hc]; rfl,
      List.all_eq_true.1 (by decide), List.all_eq_true.1 (by decide)⟩
  · have hline : '\n' ∉ c ++ [x] := by simp [hc, Ne.symm hx]
    exact ⟨c ++ [x], [], [], hline, by simp, by simp [crlf_eq_self hline], by simp, by simp⟩

theorem isLine_crlf {l : Text} (h : IsLine l) : IsLine (crlf l) := by
  obtain ⟨c, x, hc, rfl⟩ := h
  by_cases hx : x = '\n'
  · subst hx
    exact ⟨c ++ ['\r'], '\n', by simp [hc], by simp [crlf_eq_self hc]⟩
  · have hline : '\n' ∉ c ++ [x] := by simp [hc, Ne.symm hx]
    exact ⟨c, x, hc, crlf_eq_self hline⟩

theorem endsLine_crlf (h : EndsLine s) : EndsLine (crlf s) := by
  rcases h with rfl | h
  · exact Or.inl rfl
  · obtain ⟨r, rfl⟩ := List.getLast?_eq_some_iff.1 h
    exact Or.inr (by simp)

/-- The lines of the changed text are the changed lines. -/
theorem lines_crlf (s : Text) : lines (crlf s) = (lines s).map crlf := by
  induction s using line_induction with
  | nil => rfl
  | line l s hl hend ih =>
    have hend' : EndsLine (crlf l) ∨ crlf s = [] :=
      hend.imp endsLine_crlf crlf_eq_nil_iff.2
    rw [crlf_append, (isLine_crlf hl).lines_append hend', ih, hl.lines_append hend, List.map_cons]

theorem startsBlank_crlf (h : StartsBlank s) : StartsBlank (crlf s) := by
  intro l hl c hc
  rw [lines_crlf, List.head?_map, Option.map_eq_some_iff] at hl
  obtain ⟨k, hk, rfl⟩ := hl
  rcases mem_crlf hc with hc | rfl
  · exact h k hk c hc
  · decide

end DocPreview.Text
