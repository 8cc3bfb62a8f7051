import DocPreview.Diagram.Block
import Mathlib.Data.List.Infix

/-!
# The form of a diagram fence

A diagram fence starts with an opening line, three backticks and the label with a line break, and
ends with a closing, a line break and three backticks. The readers of these parts are characterized
by the parts: `closing?`, `source?` and `found?` succeed on a text exactly if the text begins with
their parts, and `source?` takes the shortest source.

## Main definitions

* `IsOpening`, `IsClosing`: the texts that begin and end a fence.
* `closing`: the characters that every closing ends with, and that close a fence.

## Main results

* `closing?_eq_some_iff`, `closing?_eq_none_iff`: the closing at the start of a text.
* `source?_eq_some_iff`: the source ends at the first closing.
* `isSome_source?_iff`: there is a source exactly if there is a closing.
* `found?_eq_some_iff`, `isSome_found?_iff`, `found?_eq_none_iff`: a text begins with a fence
  exactly if it begins with an opening line and has a closing after it.
-/

namespace DocPreview.Diagram

open Text

/-- The two line breaks. -/
def IsLineBreak (b : Text) : Prop := b = ['\n'] ∨ b = ['\r', '\n']

/-- The opening lines of the fences of a dialect. -/
def IsOpening (d : Dialect) (o : Text) : Prop :=
  ∃ b, IsLineBreak b ∧ o = backticks ++ d.label.toList ++ b

/-- What ends the fences. -/
def IsClosing (e : Text) : Prop := ∃ b, IsLineBreak b ∧ e = b ++ backticks

/-- The characters that end a fence, whatever the line break. -/
def closing : Text := '\n' :: backticks

theorem isLineBreak_lf : IsLineBreak ['\n'] := Or.inl rfl

theorem isClosing_closing : IsClosing closing := ⟨['\n'], isLineBreak_lf, rfl⟩

theorem lineBreak?_eq_some_iff {s b r : Text} :
    lineBreak? s = some (b, r) ↔ IsLineBreak b ∧ s = b ++ r := by
  constructor
  · intro h
    unfold lineBreak? at h
    split at h
    · cases h
      exact ⟨Or.inl rfl, rfl⟩
    · cases h
      exact ⟨Or.inr rfl, rfl⟩
    · cases h
  · rintro ⟨rfl | rfl, rfl⟩ <;> rfl

theorem closing?_eq_some_iff {s e r : Text} :
    closing? s = some (e, r) ↔ IsClosing e ∧ s = e ++ r := by
  constructor
  · intro h
    simp only [closing?, Option.bind_eq_bind, Option.bind_eq_some_iff, Option.pure_def,
      Option.some.injEq, Prod.mk.injEq] at h
    obtain ⟨⟨b, t⟩, ht, u, hu, rfl, rfl⟩ := h
    obtain ⟨hb, rfl⟩ := lineBreak?_eq_some_iff.1 ht
    have ht : t = backticks ++ u := eq_append_of_after? hu
    exact ⟨⟨b, hb, rfl⟩, by rw [ht, List.append_assoc]⟩
  · rintro ⟨⟨b, hb, rfl⟩, rfl⟩
    have h : lineBreak? (b ++ backticks ++ r) = some (b, backticks ++ r) :=
      lineBreak?_eq_some_iff.2 ⟨hb, List.append_assoc ..⟩
    simp only [closing?, h, Option.bind_eq_bind, Option.bind_some, after?_append, Option.pure_def]

/-- A text begins with no closing exactly if no closing is a prefix of it. -/
theorem closing?_eq_none_iff {s : Text} : closing? s = none ↔ ∀ e, IsClosing e → ¬ e <+: s := by
  constructor
  · rintro h e he ⟨r, rfl⟩
    rw [closing?_eq_some_iff.2 ⟨he, rfl⟩] at h
    cases h
  · intro h
    cases hs : closing? s with
    | none => rfl
    | some p =>
      obtain ⟨he, hr⟩ := closing?_eq_some_iff.1 hs
      exact absurd ⟨p.2, hr.symm⟩ (h p.1 he)

/-- Every closing ends with the closing characters. -/
theorem IsClosing.closing_suffix {e : Text} (h : IsClosing e) : closing <:+ e := by
  obtain ⟨b, rfl | rfl, rfl⟩ := h
  · exact List.suffix_rfl
  · exact ⟨['\r'], rfl⟩

theorem IsClosing.ne_nil {e : Text} (h : IsClosing e) : e ≠ [] := by
  obtain ⟨b, rfl | rfl, rfl⟩ := h <;> simp

theorem IsOpening.ne_nil {d : Dialect} {o : Text} (h : IsOpening d o) : o ≠ [] := by
  obtain ⟨b, -, rfl⟩ := h
  simp [backticks]

/-! ### The source -/

/-- The source of a fence is what stands before the first closing. -/
theorem source?_eq_some_iff {s a e r : Text} :
    source? s = some (a, e, r) ↔ s = a ++ (e ++ r) ∧ IsClosing e ∧
      ∀ y, y <:+ a → y ≠ [] → closing? (y ++ (e ++ r)) = none := by
  induction s generalizing a with
  | nil =>
    constructor
    · intro h
      simp [source?] at h
    · rintro ⟨h, he, -⟩
      simp only [List.nil_eq, List.append_eq_nil_iff] at h
      exact absurd h.2.1 he.ne_nil
  | cons c t ih =>
    cases hc : closing? (c :: t) with
    | some p =>
      obtain ⟨e', r'⟩ := p
      obtain ⟨he', ht⟩ := closing?_eq_some_iff.1 hc
      simp only [source?, hc, Option.some.injEq, Prod.mk.injEq]
      constructor
      · rintro ⟨rfl, rfl, rfl⟩
        refine ⟨ht, he', fun y hy hne => absurd (List.suffix_nil.1 hy) hne⟩
      · rintro ⟨h, he, hmin⟩
        cases a with
        | nil =>
          rw [List.nil_append] at h
          have hc' := closing?_eq_some_iff.2 ⟨he, h⟩
          rw [hc, Option.some.injEq, Prod.mk.injEq] at hc'
          exact ⟨rfl, hc'⟩
        | cons x a =>
          have hx := hmin (x :: a) List.suffix_rfl (by simp)
          rw [← h, hc] at hx
          cases hx
    | none =>
      simp only [source?, hc, Option.map_eq_some_iff]
      constructor
      · rintro ⟨⟨a', e', r'⟩, h, heq⟩
        simp only [Prod.mk.injEq] at heq
        obtain ⟨rfl, rfl, rfl⟩ := heq
        obtain ⟨rfl, he, hmin⟩ := ih.1 h
        refine ⟨rfl, he, fun y hy hne => ?_⟩
        rcases List.suffix_cons_iff.1 hy with rfl | hy
        · exact hc
        · exact hmin y hy hne
      · rintro ⟨h, he, hmin⟩
        cases a with
        | nil =>
          rw [closing?_eq_some_iff.2 ⟨he, h⟩] at hc
          simp at hc
        | cons x a =>
          rw [List.cons_append, List.cons.injEq] at h
          obtain ⟨rfl, rfl⟩ := h
          have hmin' (y : Text) (hy : y <:+ a) : y ≠ [] → closing? (y ++ (e ++ r)) = none :=
            hmin y (hy.trans (List.suffix_cons ..))
          exact ⟨(a, e, r), ih.2 ⟨rfl, he, hmin'⟩, rfl⟩

/-- A text that has closing characters has a source. -/
theorem isSome_source?_iff {s : Text} : (source? s).isSome ↔ closing <:+: s := by
  induction s with
  | nil => simp [source?, closing]
  | cons c t ih =>
    cases hc : closing? (c :: t) with
    | some p =>
      obtain ⟨he, ht⟩ := closing?_eq_some_iff.1 hc
      simp only [source?, hc, Option.isSome_some, true_iff]
      exact ht ▸ he.closing_suffix.isInfix.trans (List.prefix_append ..).isInfix
    | none =>
      simp only [source?, hc, Option.isSome_map, ih, List.infix_cons_iff]
      constructor
      · exact Or.inr
      · rintro (⟨r, h⟩ | h)
        · rw [closing?_eq_some_iff.2 ⟨isClosing_closing, h.symm⟩] at hc
          simp at hc
        · exact h

/-! ### The whole fence -/

theorem found?_eq_some_iff {d : Dialect} {s r : Text} {f : Found} :
    found? d s = some (f, r) ↔ IsOpening d f.opened ∧
      s = f.opened ++ (f.source ++ (f.closed ++ r)) ∧
      source? (f.source ++ (f.closed ++ r)) = some (f.source, f.closed, r) := by
  obtain ⟨o, a, e⟩ := f
  constructor
  · intro h
    simp only [found?, Option.bind_eq_bind, Option.bind_eq_some_iff, Option.pure_def,
      Option.some.injEq, Prod.mk.injEq, Found.mk.injEq] at h
    obtain ⟨t, ht, ⟨b, u⟩, hu, ⟨a', e', r'⟩, hs, ⟨rfl, rfl, rfl⟩, rfl⟩ := h
    obtain ⟨hb, rfl⟩ := lineBreak?_eq_some_iff.1 hu
    obtain ⟨rfl, -, -⟩ := source?_eq_some_iff.1 hs
    refine ⟨⟨b, hb, rfl⟩, ?_, hs⟩
    rw [eq_append_of_after? ht]
    simp only [List.append_assoc]
  · rintro ⟨⟨b, hb, rfl⟩, rfl, hs⟩
    have hbreak : lineBreak? (b ++ (a ++ (e ++ r))) = some (b, a ++ (e ++ r)) :=
      lineBreak?_eq_some_iff.2 ⟨hb, rfl⟩
    have hlabel : after? (backticks ++ d.label.toList)
        (backticks ++ d.label.toList ++ b ++ (a ++ (e ++ r))) = some (b ++ (a ++ (e ++ r))) := by
      rw [List.append_assoc _ b, after?_append]
    simp only at hs
    simp only [found?, hlabel, hbreak, hs, Option.bind_eq_bind, Option.bind_some, Option.pure_def]

/-- A text begins with a fence exactly if it begins with an opening line and has a closing after
it. -/
theorem isSome_found?_iff {d : Dialect} {s : Text} :
    (found? d s).isSome ↔ ∃ o inner, IsOpening d o ∧ s = o ++ inner ∧ closing <:+: inner := by
  constructor
  · intro h
    obtain ⟨⟨f, r⟩, hf⟩ := Option.isSome_iff_exists.1 h
    obtain ⟨ho, hs, hsource⟩ := found?_eq_some_iff.1 hf
    refine ⟨_, _, ho, hs, isSome_source?_iff.1 ?_⟩
    rw [hsource]
    rfl
  · rintro ⟨o, inner, ho, rfl, hc⟩
    obtain ⟨⟨a, e, r⟩, hs⟩ := Option.isSome_iff_exists.1 (isSome_source?_iff.2 hc)
    obtain ⟨rfl, -, -⟩ := source?_eq_some_iff.1 hs
    have hf : found? d (o ++ (a ++ (e ++ r))) = some (⟨o, a, e⟩, r) :=
      found?_eq_some_iff.2 ⟨ho, rfl, hs⟩
    rw [hf]
    rfl

/-- A text begins with no fence exactly if it has no closing after an opening line at its start. -/
theorem found?_eq_none_iff {d : Dialect} {s : Text} : found? d s = none ↔
    ∀ o inner, IsOpening d o → s = o ++ inner → ¬ closing <:+: inner := by
  rw [← Option.not_isSome_iff_eq_none, isSome_found?_iff]
  simp only [not_exists, not_and]

/-- What follows a fence is shorter than the text that begins with it. -/
theorem length_lt_of_found? {d : Dialect} {s r : Text} {f : Found}
    (h : found? d s = some (f, r)) : r.length < s.length := by
  obtain ⟨ho, rfl, -⟩ := found?_eq_some_iff.1 h
  have := List.length_pos_iff.2 ho.ne_nil
  simp only [List.length_append]
  omega

/-- A fence and what follows it make up the text that begins with it. -/
theorem matched_append_of_found? {d : Dialect} {s r : Text} {f : Found}
    (h : found? d s = some (f, r)) : f.matched ++ r = s := by
  rw [(found?_eq_some_iff.1 h).2.1]
  simp only [Found.matched, List.append_assoc]

end DocPreview.Diagram
