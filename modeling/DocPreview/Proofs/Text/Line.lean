import DocPreview.Text.Basic
import Mathlib.Data.List.DropRight

/-!
# Lines of a text and their ends

A text is cut into lines after each line break, so a text that ends a line can be cut from what
follows it, and a stretch without a line break joins the first line of what follows it. Facts about
the lines of a text are proved line by line with `line_induction`.

Trimming the end of a text does not depend on what is put behind it if that goes as well, and
trimming a text again changes nothing.

## Main definitions

* `EndsLine`: a text behind which a line begins.
* `StartsBlank`: a text whose first line is blank.

## Main results

* `line_induction`: induction on the lines of a text.
* `lines_append`: the lines of a text that is cut where a line begins.
* `lines_append_of_lines_eq`: what is put behind a text goes on with its last line.
-/

namespace DocPreview.Text

/-! ### Trimming -/

theorem dropEndWhile_eq_rdropWhile (p : Char → Bool) (s : Text) :
    dropEndWhile p s = s.rdropWhile p := by
  induction s with
  | nil => rfl
  | cons c s ih =>
    rw [dropEndWhile, ih]
    simp only [List.rdropWhile, List.reverse_cons, List.dropWhile_append]
    cases s.reverse.dropWhile p with
    | nil => by_cases hc : p c <;> simp [hc]
    | cons x r =>
      have hne : (x :: r).reverse ≠ [] := by simp
      obtain ⟨y, t, ht⟩ := List.exists_cons_of_ne_nil hne
      rw [List.isEmpty_cons, if_neg Bool.false_ne_true, List.reverse_append, ht]
      rfl

variable {p : Char → Bool} {a b s : Text}

theorem dropEndWhile_append_of_pos (h : ∀ c ∈ b, p c) :
    dropEndWhile p (a ++ b) = dropEndWhile p a := by
  have hb : b.reverse.dropWhile p = [] := List.dropWhile_eq_nil_iff.2 (by simpa using h)
  rw [dropEndWhile_eq_rdropWhile, dropEndWhile_eq_rdropWhile, List.rdropWhile, List.rdropWhile,
    List.reverse_append, List.dropWhile_append, hb]
  rfl

/-- Trimming the end keeps what stands before a part of which something is kept. -/
theorem dropEndWhile_append_of_ne_nil (h : dropEndWhile p b ≠ []) :
    dropEndWhile p (a ++ b) = a ++ dropEndWhile p b := by
  rw [dropEndWhile_eq_rdropWhile, List.rdropWhile, ne_eq, List.reverse_eq_nil_iff] at h
  rw [dropEndWhile_eq_rdropWhile, dropEndWhile_eq_rdropWhile, List.rdropWhile, List.rdropWhile,
    List.reverse_append, List.dropWhile_append, if_neg (by simpa using h), List.reverse_append,
    List.reverse_reverse]

theorem dropEndWhile_eq_self_iff : dropEndWhile p s = s ↔ ∀ c, s.getLast? = some c → ¬ p c := by
  rw [dropEndWhile_eq_rdropWhile, List.rdropWhile_eq_self_iff]
  constructor
  · intro h c hc
    obtain ⟨t, rfl⟩ := List.getLast?_eq_some_iff.1 hc
    simpa using h (by simp)
  · exact fun h hne => h _ (List.getLast?_eq_some_getLast hne)

/-- What is trimmed off the end satisfies the condition. -/
theorem exists_of_dropEndWhile (p : Char → Bool) (s : Text) :
    ∃ b, s = dropEndWhile p s ++ b ∧ ∀ c ∈ b, p c := by
  refine ⟨s.rtakeWhile p, ?_, fun c hc => List.mem_rtakeWhile_imp hc⟩
  rw [dropEndWhile_eq_rdropWhile, List.rdropWhile_append_rtakeWhile]

theorem dropEndWhile_idem (p : Char → Bool) (s : Text) :
    dropEndWhile p (dropEndWhile p s) = dropEndWhile p s := by
  simp only [dropEndWhile_eq_rdropWhile, List.rdropWhile_idempotent]

theorem trimStart_suffix_self (s : Text) : trimStart s <:+ s := List.dropWhile_suffix isBlank

theorem trimEnd_prefix_self (s : Text) : trimEnd s <+: s := by
  obtain ⟨b, hs, -⟩ := exists_of_dropEndWhile isBlank s
  exact ⟨b, hs.symm⟩

theorem trimStart_eq_self_of_head? (h : ∀ c, s.head? = some c → ¬ isBlank c) :
    trimStart s = s := by
  cases s with
  | nil => rfl
  | cons c s => exact List.dropWhile_cons_of_neg (h c rfl)

theorem head?_trimStart {c : Char} (h : (trimStart s).head? = some c) : ¬ isBlank c := by
  have hc := List.head?_dropWhile_not isBlank s
  rw [show (s.dropWhile isBlank).head? = some c from h] at hc
  simpa using hc

theorem trim_eq_self_iff : trim s = s ↔ trimStart s = s ∧ trimEnd s = s := by
  constructor
  · intro h
    have hend := (trimEnd_prefix_self (trimStart s)).length_le
    have hstart : trimStart s = s :=
      (trimStart_suffix_self s).eq_of_length_le ((congrArg List.length h).ge.trans hend)
    rw [trim, hstart] at h
    exact ⟨hstart, h⟩
  · rintro ⟨hstart, hend⟩
    rw [trim, hstart, hend]

theorem trim_trim (s : Text) : trim (trim s) = trim s := by
  refine trim_eq_self_iff.2 ⟨trimStart_eq_self_of_head? fun c hc => ?_, dropEndWhile_idem ..⟩
  obtain ⟨b, hb⟩ := trimEnd_prefix_self (trimStart s)
  obtain ⟨r, hr⟩ := List.head?_eq_some_iff.1 hc
  refine head?_trimStart (s := s) ?_
  rw [← hb, show trimEnd (trimStart s) = c :: r from hr]
  rfl

theorem trim_eq_nil_iff : trim s = [] ↔ ∀ c ∈ s, isBlank c := by
  constructor
  · intro h
    rw [trim, trimEnd, dropEndWhile_eq_rdropWhile, List.rdropWhile_eq_nil_iff] at h
    refine List.dropWhile_eq_nil_iff.1 ?_
    cases hs : s.dropWhile isBlank with
    | nil => rfl
    | cons c r =>
      have hc : ¬ isBlank c := head?_trimStart (s := s) (by rw [trimStart, hs, List.head?_cons])
      exact absurd (h c (by rw [trimStart, hs]; exact List.mem_cons_self)) hc
  · intro h
    rw [trim, trimStart, List.dropWhile_eq_nil_iff.2 h]
    rfl

/-- White space behind a text does not matter when the text is trimmed. -/
theorem trim_append_of_blank (hb : ∀ c ∈ b, isBlank c) : trim (a ++ b) = trim a := by
  cases hr : trimStart a with
  | nil =>
    have ha : ∀ c ∈ a, isBlank c := List.dropWhile_eq_nil_iff.1 hr
    rw [trim_eq_nil_iff.2 ha, trim_eq_nil_iff.2 (List.forall_mem_append.2 ⟨ha, hb⟩)]
  | cons c r =>
    have hstart : trimStart (a ++ b) = trimStart a ++ b := by
      rw [trimStart, List.dropWhile_append, if_neg (by rw [← trimStart, hr]; simp), ← trimStart]
    rw [trim, hstart, trimEnd, dropEndWhile_append_of_pos hb, trim, trimEnd]

/-- White space before a text does not matter when the text is trimmed. -/
theorem trim_blank_append (ha : ∀ c ∈ a, isBlank c) : trim (a ++ b) = trim b := by
  rw [trim, trimStart, List.dropWhile_append_of_pos ha, ← trimStart, ← trim]

theorem countP_trim_le (q : Char → Bool) (s : Text) : (trim s).countP q ≤ s.countP q :=
  ((trimEnd_prefix_self (trimStart s)).sublist.trans (trimStart_suffix_self s).sublist).countP_le

/-! ### Lines -/

/-- A line: its last character is the only one that can be a line break. -/
def IsLine (l : Text) : Prop := ∃ c x, '\n' ∉ c ∧ l = c ++ [x]

/-- A text behind which a line begins. -/
def EndsLine (s : Text) : Prop := s = [] ∨ s.getLast? = some '\n'

/-- A text whose first line is blank. -/
def StartsBlank (s : Text) : Prop := ∀ l, (lines s).head? = some l → ∀ c ∈ l, isBlank c

@[simp] theorem lines_nil : lines [] = [] := rfl

theorem IsLine.ne_nil {l : Text} (h : IsLine l) : l ≠ [] := by
  obtain ⟨c, x, -, rfl⟩ := h
  simp

/-- Characters without a line break are a line. -/
theorem isLine_of_notMem {c : Text} (hc : '\n' ∉ c) (hne : c ≠ []) : IsLine c :=
  ⟨c.dropLast, c.getLast hne, fun h => hc ((List.dropLast_sublist c).subset h),
    (List.dropLast_append_getLast hne).symm⟩

theorem isLine_append_lf {c : Text} (hc : '\n' ∉ c) : IsLine (c ++ ['\n']) := ⟨c, '\n', hc, rfl⟩

/-- A line without a line break at its end has none. -/
theorem IsLine.endsLine_or_lf_notMem {l : Text} (h : IsLine l) : EndsLine l ∨ '\n' ∉ l := by
  obtain ⟨c, x, hc, rfl⟩ := h
  by_cases hx : x = '\n'
  · exact Or.inl (Or.inr (by simp [hx]))
  · exact Or.inr (by simpa [hc] using Ne.symm hx)

theorem IsLine.of_append_left (h : IsLine (a ++ b)) (ha : a ≠ []) : IsLine a := by
  obtain ⟨c, x, hc, heq⟩ := h
  cases b using List.reverseRecOn with
  | nil => exact ⟨c, x, hc, by rw [← heq, List.append_nil]⟩
  | append_singleton b y =>
    rw [← List.append_assoc] at heq
    obtain ⟨rfl, -⟩ := List.append_inj' heq rfl
    exact isLine_of_notMem (fun h => hc (List.mem_append_left b h)) ha

theorem IsLine.of_append_right (h : IsLine (a ++ b)) (hb : b ≠ []) : IsLine b := by
  obtain ⟨c, x, hc, heq⟩ := h
  cases b using List.reverseRecOn with
  | nil => exact absurd rfl hb
  | append_singleton b y =>
    rw [← List.append_assoc] at heq
    obtain ⟨rfl, -⟩ := List.append_inj' heq rfl
    exact ⟨b, y, fun h => hc (List.mem_append_right a h), rfl⟩

/-- A line that ends in no white space has no line break. -/
theorem IsLine.lf_notMem {l : Text} (h : IsLine l) (htrim : trimEnd l = l) : '\n' ∉ l := by
  obtain ⟨c, x, hc, rfl⟩ := h
  have hx : ¬ isBlank x := dropEndWhile_eq_self_iff.1 htrim x (by simp)
  rintro hmem
  rcases List.mem_append.1 hmem with hmem | hmem
  · exact hc hmem
  · obtain rfl := List.mem_singleton.1 hmem
    exact hx (by decide)

/-- What is left of a line without its line end is in one line. -/
theorem IsLine.lf_notMem_dropEndWhile {l : Text} (h : IsLine l) :
    '\n' ∉ dropEndWhile isLineEnd l := by
  obtain ⟨c, x, hc, rfl⟩ := h
  intro hmem
  by_cases hx : isLineEnd x
  · rw [dropEndWhile_append_of_pos (by simpa using hx)] at hmem
    obtain ⟨b, hb, -⟩ := exists_of_dropEndWhile isLineEnd c
    exact hc (hb ▸ List.mem_append_left b hmem)
  · obtain ⟨b, hb, -⟩ := exists_of_dropEndWhile isLineEnd (c ++ [x])
    have hmem : '\n' ∈ c ++ [x] := hb ▸ List.mem_append_left b hmem
    rcases List.mem_append.1 hmem with hmem | hmem
    · exact hc hmem
    · exact hx (List.mem_singleton.1 hmem ▸ by decide)

theorem endsLine_append_lf (c : Text) : EndsLine (c ++ ['\n']) := Or.inr (by simp)

theorem EndsLine.append (ha : EndsLine a) (hb : EndsLine b) : EndsLine (a ++ b) := by
  rcases hb with rfl | hb
  · rwa [List.append_nil]
  · exact Or.inr (by rw [List.getLast?_append, hb]; rfl)

theorem EndsLine.of_append (h : EndsLine (a ++ b)) : EndsLine b := by
  cases b with
  | nil => exact Or.inl rfl
  | cons x b =>
    have hne : x :: b ≠ [] := List.cons_ne_nil _ _
    rcases h with h | h
    · simp at h
    · exact Or.inr (by rwa [List.getLast?_append_of_ne_nil a hne] at h)

/-- Characters other than line breaks stand in one line with what follows them. -/
theorem lines_append_of_notMem {c l : Text} {ls : List Text} (hc : '\n' ∉ c)
    (hs : lines s = l :: ls) : lines (c ++ s) = (c ++ l) :: ls := by
  induction c with
  | nil => exact hs
  | cons x c ih =>
    rw [List.mem_cons, not_or] at hc
    rw [List.cons_append, lines, if_neg (Ne.symm hc.1), ih hc.2]
    rfl

theorem lines_append_lf {c : Text} (hc : '\n' ∉ c) (s : Text) :
    lines (c ++ '\n' :: s) = (c ++ ['\n']) :: lines s :=
  lines_append_of_notMem hc (by simp [lines])

theorem IsLine.lines_eq {l : Text} (h : IsLine l) : lines l = [l] := by
  obtain ⟨c, x, hc, rfl⟩ := h
  refine lines_append_of_notMem hc ?_
  by_cases hx : x = '\n' <;> simp [lines, hx]

/-- A line is cut from what follows it at its line break. -/
theorem IsLine.lines_append {l t : Text} (hl : IsLine l) (h : EndsLine l ∨ t = []) :
    lines (l ++ t) = l :: lines t := by
  rcases h with h | rfl
  · obtain ⟨c, x, hc, rfl⟩ := hl
    obtain rfl : x = '\n' := by simpa [EndsLine] using h
    rw [List.append_assoc]
    exact lines_append_lf hc t
  · rw [List.append_nil, hl.lines_eq]
    rfl

/-- Induction on the lines of a text. -/
@[elab_as_elim]
theorem line_induction {motive : Text → Prop} (nil : motive [])
    (line : ∀ l s, IsLine l → EndsLine l ∨ s = [] → motive s → motive (l ++ s)) (s : Text) :
    motive s := by
  by_cases h : '\n' ∈ s
  · obtain ⟨c, t, hs, hc⟩ := List.eq_append_cons_of_mem h
    have ht : motive t := line_induction nil line t
    rw [hs, List.append_cons]
    exact line _ t (isLine_append_lf hc) (Or.inl (endsLine_append_lf c)) ht
  · by_cases hne : s = []
    · exact hne ▸ nil
    · rw [← List.append_nil s]
      exact line s [] (isLine_of_notMem h hne) (Or.inr rfl) nil
termination_by s.length
decreasing_by simp only [hs, List.length_append, List.length_cons]; omega

theorem isLine_of_mem_lines {l : Text} (h : l ∈ lines s) : IsLine l := by
  induction s using line_induction with
  | nil => cases h
  | line k s hk hend ih =>
    rw [hk.lines_append hend] at h
    rcases List.mem_cons.1 h with rfl | h
    · exact hk
    · exact ih h

/-- A line that is cut from what follows it ends a line. -/
theorem IsLine.endsLine_or_nil {l t : Text} {ls : List Text} (hl : IsLine l)
    (h : lines (l ++ t) = l :: ls) : EndsLine l ∨ t = [] := by
  refine hl.endsLine_or_lf_notMem.imp_right fun hlf => ?_
  cases ht : lines t with
  | nil => rw [← flatten_lines t, ht, List.flatten_nil]
  | cons k ks =>
    have hk : k ≠ [] := (isLine_of_mem_lines (s := t) (by simp [ht])).ne_nil
    rw [lines_append_of_notMem hlf ht] at h
    exact absurd (List.append_right_eq_self.1 (List.cons.inj h).1) hk

theorem infix_of_mem_lines {l : Text} (h : l ∈ lines s) : l <:+: s := by
  have hl := List.infix_of_mem_flatten h
  rwa [flatten_lines] at hl

/-- The lines of the first lines of a text. -/
theorem lines_flatten_take (k : Nat) (s : Text) :
    lines ((lines s).take k).flatten = (lines s).take k := by
  induction s using line_induction generalizing k with
  | nil => simp
  | line l s hl hend ih =>
    rw [hl.lines_append hend]
    cases k with
    | zero => rfl
    | succ k =>
      have hrest : EndsLine l ∨ ((lines s).take k).flatten = [] :=
        hend.imp_right (by rintro rfl; simp)
      rw [List.take_succ_cons, List.flatten_cons, hl.lines_append hrest, ih]

/-- The lines of a text that is cut where a line begins. -/
theorem lines_append (ha : EndsLine a) (b : Text) : lines (a ++ b) = lines a ++ lines b := by
  induction a using line_induction with
  | nil => rfl
  | line l s hl hend ih =>
    have hl_end : EndsLine l := by
      rcases hend with h | rfl
      · exact h
      · rwa [List.append_nil] at ha
    rw [List.append_assoc, hl.lines_append (Or.inl hl_end), hl.lines_append (Or.inl hl_end),
      ih ha.of_append, List.cons_append]

/-- Lines with another line behind them end lines. -/
theorem endsLine_flatten_of_lines_eq {ls ms : List Text} {l : Text} (h : lines s = ls ++ l :: ms) :
    EndsLine ls.flatten := by
  induction s using line_induction generalizing ls with
  | nil => simp [lines] at h
  | line k s hk hend ih =>
    rw [hk.lines_append hend] at h
    cases ls with
    | nil => exact Or.inl rfl
    | cons k' ls =>
      obtain ⟨rfl, hs⟩ : k = k' ∧ lines s = ls ++ l :: ms := by simpa using h
      have hk_end : EndsLine k := hend.resolve_right (by rintro rfl; simp [lines] at hs)
      exact hk_end.append (ih hs)

theorem startsBlank_nil : StartsBlank [] := by
  intro l h
  cases h

theorem startsBlank_of_blank (h : ∀ c ∈ s, isBlank c) : StartsBlank s := by
  intro l hl c hc
  exact h c ((infix_of_mem_lines (List.mem_of_head? hl)).subset hc)

/-- A text that is cut from what follows starts as it starts alone. -/
theorem StartsBlank.append (h : StartsBlank a) (hne : a ≠ []) (hend : EndsLine a ∨ b = []) :
    StartsBlank (a ++ b) := by
  rcases hend with hend | rfl
  · intro l hl
    rw [lines_append hend, List.head?_append_of_ne_nil] at hl
    · exact h l hl
    · intro hlines
      rw [← flatten_lines a, hlines] at hne
      exact hne rfl
  · rwa [List.append_nil]

/-- A text starts blank if it starts with blank characters that end a line or make up the text. -/
theorem startsBlank_iff : StartsBlank s ↔
    ∃ v r, s = v ++ r ∧ (∀ c ∈ v, isBlank c) ∧ (v.getLast? = some '\n' ∨ r = []) := by
  constructor
  · intro h
    cases s using line_induction with
    | nil => exact ⟨[], [], rfl, by simp, Or.inr rfl⟩
    | line l r hl hend _ =>
      refine ⟨l, r, rfl, h l ?_, hend.imp_left fun h => h.resolve_left hl.ne_nil⟩
      rw [hl.lines_append hend]
      rfl
  · rintro ⟨v, r, rfl, hv, h | rfl⟩
    · have hne : v ≠ [] := by
        rintro rfl
        cases h
      exact (startsBlank_of_blank hv).append hne (Or.inl (Or.inr h))
    · rw [List.append_nil]
      exact startsBlank_of_blank hv

/-- What is put behind a text goes on with the last line of the text. -/
theorem lines_append_of_lines_eq {c : Text} {ls : List Text} (h : lines a = ls ++ [c]) (b : Text) :
    lines (a ++ b) = ls ++ lines (c ++ b) := by
  induction a using line_induction generalizing ls with
  | nil => simp [lines] at h
  | line l s hl hend ih =>
    rw [hl.lines_append hend] at h
    cases ls with
    | nil =>
      obtain ⟨rfl, hs⟩ : l = c ∧ lines s = [] := by simpa using h
      obtain rfl : s = [] := by rw [← flatten_lines s, hs]; rfl
      rw [List.append_nil, List.nil_append]
    | cons k ls =>
      obtain ⟨rfl, hs⟩ : l = k ∧ lines s = ls ++ [c] := by simpa using h
      have hend : EndsLine l := hend.resolve_right (by rintro rfl; simp [lines] at hs)
      rw [List.append_assoc, hl.lines_append (Or.inl hend), ih hs, List.cons_append]

end DocPreview.Text
