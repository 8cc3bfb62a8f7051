import DocPreview.Proofs.Diagram.Fragment
import DocPreview.Proofs.Diagram.Scan

/-!
# The scan around an inert text

An inert text in the middle of a document is either skipped by the scan, character by character, or
swallowed by a fence that begins before it and ends after it. The second happens exactly if an
opening line stands open before it, that is, outside the fences there, and closing characters stand
after it; the scan then runs over the inert text to the first closing.

## Main definitions

* `StandsOpen`: an opening line stands in a text outside its fences.

## Main results

* `Scan.append_of_not_swallowed`: the pieces of a document in which an inert text is skipped.
* `Scan.append_of_swallowed`: the fence that swallows an inert text.
-/

namespace DocPreview.Diagram

open Text

variable {d : Dialect}

/-- An opening line of `d` stands among pieces as characters. -/
def HasOpening (d : Dialect) (ps : List Piece) : Prop :=
  ∃ a o b, IsOpening d o ∧ ps = a ++ (o.map .char ++ b)

/-- An opening line of `d` stands in a text outside the fences. -/
def StandsOpen (d : Dialect) (s : Text) : Prop := HasOpening d (pieces d s)

theorem not_hasOpening_nil : ¬ HasOpening d [] := by
  rintro ⟨a, o, b, ho, h⟩
  simp only [List.nil_eq, List.append_eq_nil_iff, List.map_eq_nil_iff] at h
  exact ho.ne_nil h.2.1

theorem HasOpening.cons {ps : List Piece} (h : HasOpening d ps) (p : Piece) :
    HasOpening d (p :: ps) := by
  obtain ⟨a, o, b, ho, rfl⟩ := h
  exact ⟨p :: a, o, b, ho, rfl⟩

/-- An opening begins with the first piece or stands behind it. -/
theorem HasOpening.cases {p : Piece} {ps : List Piece} (h : HasOpening d (p :: ps)) :
    (∃ o b, IsOpening d o ∧ p :: ps = o.map .char ++ b) ∨ HasOpening d ps := by
  obtain ⟨a, o, b, ho, h⟩ := h
  cases a with
  | nil => exact Or.inl ⟨o, b, ho, h⟩
  | cons q a =>
    rw [List.cons_append, List.cons.injEq] at h
    exact Or.inr ⟨a, o, b, ho, h.2⟩

/-! ### Openings without a closing -/

theorem count_lf_opening {o : Text} (h : IsOpening d o) : o.count '\n' = 1 := by
  obtain ⟨b, rfl | rfl, rfl⟩ := h <;> cases d <;> decide

/-- In an opening line without a closing after it no fence begins. -/
theorem found?_eq_none_of_opening {o inner t : Text} (ho : IsOpening d o)
    (hc : ¬ closing <:+: inner) (ht : t <:+ o ++ inner) : found? d t = none := by
  refine found?_eq_none_iff.2 ?_
  rintro o' inner' ho' rfl hc'
  rcases suffix_append_cases ht with ht | ⟨v, -, hv, heq⟩
  · exact hc (hc'.trans ((List.suffix_append ..).isInfix.trans ht.isInfix))
  · rcases List.append_eq_append_iff.1 heq with ⟨as, rfl, rfl⟩ | ⟨bs, -, rfl⟩
    -- `o'` holds the only line break of `o`, so what follows it in `o` begins no closing.
    · have hcount := hv.sublist.count_le '\n'
      rw [List.count_append, count_lf_opening ho, count_lf_opening ho'] at hcount
      have hlf : '\n' ∉ as := List.count_eq_zero.1 (by omega)
      exact hc (closing_infix_of_append hlf hc')
    · exact hc (hc'.trans (List.suffix_append ..).isInfix)

/-- A text without fences is scanned as its characters. -/
theorem Scan.eq_map_char {s : Text} {ps : List Piece} (h : Scan d s ps)
    (hs : ∀ t, t <:+ s → found? d t = none) : ps = s.map .char := by
  induction h with
  | nil => rfl
  | char _ _ ih =>
    rw [ih fun t ht => hs t (ht.trans (List.suffix_cons ..)), List.map_cons]
  | fence h _ _ =>
    rw [hs _ List.suffix_rfl] at h
    cases h

/-- An opening line without a closing after it is scanned as its characters. -/
theorem Scan.hasOpening {o inner : Text} {ps : List Piece} (h : Scan d (o ++ inner) ps)
    (ho : IsOpening d o) (hc : ¬ closing <:+: inner) : HasOpening d ps := by
  refine ⟨[], o, inner.map .char, ho, ?_⟩
  rw [h.eq_map_char fun t ht => found?_eq_none_of_opening ho hc ht, List.map_append]
  rfl

/-- An opening among pieces begins with the first character of the text or stands behind it. -/
theorem Scan.hasOpening_cases {c : Char} {r : Text} {ps : List Piece}
    (h : Scan d (c :: r) (.char c :: ps)) (ho : HasOpening d (.char c :: ps)) :
    (∃ o inner, IsOpening d o ∧ c :: r = o ++ inner) ∨ HasOpening d ps := by
  rcases ho.cases with ⟨o, b, ho, heq⟩ | hlater
  · have hraw := congrArg (List.flatMap Piece.raw) heq
    rw [h.flatMap_raw, List.flatMap_append, List.flatMap_map] at hraw
    simp only [Piece.raw, List.flatMap_singleton'] at hraw
    exact Or.inl ⟨o, _, ho, hraw⟩
  · exact Or.inr hlater

/-! ### Readers before an inert text -/

variable {fr : Text} (hfr : IsInert fr)

include hfr

theorem IsInert.prefix_of_prefix_append {p s w : Text} (hp : '<' ∉ p)
    (h : p <+: s ++ (fr ++ w)) : p <+: s := by
  obtain ⟨inner, rfl⟩ := hfr.shape
  exact prefix_of_prefix_append_cons hp h

/-- A closing does not reach an inert text. -/
theorem IsInert.closing?_append {s : Text} (h : closing? s = none) (w : Text) :
    closing? (s ++ (fr ++ w)) = none := by
  refine closing?_eq_none_iff.2 fun e he hpre => closing?_eq_none_iff.1 h e he ?_
  exact hfr.prefix_of_prefix_append (langle_notMem_of_isClosing he) hpre

/-- A fence before an inert text is found as without it. -/
theorem IsInert.found?_append {s r : Text} {f : Found} (h : found? d s = some (f, r)) (w : Text) :
    found? d (s ++ (fr ++ w)) = some (f, r ++ (fr ++ w)) := by
  obtain ⟨ho, rfl, hs⟩ := found?_eq_some_iff.1 h
  obtain ⟨-, he, hmin⟩ := source?_eq_some_iff.1 hs
  refine found?_eq_some_iff.2 ⟨ho, by simp only [List.append_assoc], ?_⟩
  refine source?_eq_some_iff.2 ⟨rfl, he, fun y hy hne => ?_⟩
  have h := hfr.closing?_append (hmin y hy hne) w
  simpa only [List.append_assoc] using h

/-- A source without a closing before an inert text runs over that text to the first closing. -/
theorem IsInert.source?_append {inner w y e r : Text} (hc : ¬ closing <:+: inner)
    (h : source? w = some (y, e, r)) :
    source? (inner ++ (fr ++ w)) = some (inner ++ (fr ++ y), e, r) := by
  obtain ⟨rfl, he, hmin⟩ := source?_eq_some_iff.1 h
  refine source?_eq_some_iff.2 ⟨by simp only [List.append_assoc], he, fun z hz hne => ?_⟩
  rcases suffix_append_cases hz with hz | ⟨v, hv, hsuffix, rfl⟩
  · rcases suffix_append_cases hz with hz | ⟨v, hv, hsuffix, rfl⟩
    · exact hmin z hz hne
    · rw [List.append_assoc]
      exact hfr.closing?_eq_none hsuffix hv _
  · have hnone : closing? v = none := closing?_eq_none_iff.2 fun e' he' hpre =>
      hc (he'.closing_suffix.isInfix.trans (hpre.isInfix.trans hsuffix.isInfix))
    simpa only [List.append_assoc] using hfr.closing?_append hnone (y ++ (e ++ r))

/-- An opening line without a closing before an inert text begins a fence that swallows the text. -/
theorem IsInert.exists_found?_of_opening {o inner w : Text} (ho : IsOpening d o)
    (hinner : ¬ closing <:+: inner) (hc : closing <:+: w) :
    ∃ y e r, found? d (o ++ inner ++ (fr ++ w)) = some (⟨o, inner ++ (fr ++ y), e⟩, r) := by
  obtain ⟨⟨y, e, r⟩, hsource⟩ := Option.isSome_iff_exists.1 (isSome_source?_iff.2 hc)
  obtain ⟨rfl, -, -⟩ := source?_eq_some_iff.1 hsource
  refine ⟨y, e, r, found?_eq_some_iff.2 ⟨ho, by simp only [List.append_assoc], ?_⟩⟩
  have hs := hfr.source?_append hinner hsource
  rwa [show inner ++ (fr ++ (y ++ (e ++ r))) = inner ++ (fr ++ y) ++ (e ++ r) by
    simp only [List.append_assoc]] at hs

/-- Before an inert text a fence is new only if a closing behind the text ends it. -/
theorem IsInert.found?_append_cases {s w : Text} (h : found? d s = none) :
    found? d (s ++ (fr ++ w)) = none ∨ closing <:+: w ∧
      ∃ o inner, IsOpening d o ∧ s = o ++ inner ∧ ¬ closing <:+: inner := by
  by_cases hnone : found? d (s ++ (fr ++ w)) = none
  · exact Or.inl hnone
  · obtain ⟨o, inner', ho, heq, hc⟩ :=
      isSome_found?_iff.1 (Option.isSome_iff_ne_none.2 hnone)
    obtain ⟨inner, rfl⟩ := hfr.prefix_of_prefix_append (langle_notMem_opening ho)
      ⟨inner', heq.symm⟩
    rw [List.append_assoc, List.append_cancel_left_eq] at heq
    have hinner := found?_eq_none_iff.1 h o inner ho rfl
    rcases hfr.closing_infix_append (heq ▸ hc) with hc | hc
    · exact absurd hc hinner
    · exact Or.inr ⟨hc, o, inner, ho, rfl, hinner⟩

/-! ### The scan -/

/-- An inert text is scanned as its characters. -/
theorem IsInert.scan_append {w : Text} {ps : List Piece} (h : Scan d w ps) :
    Scan d (fr ++ w) (fr.map .char ++ ps) :=
  h.map_char_append fun _ hy hne => hfr.found?_eq_none hy hne d w

/-- An inert text is skipped unless a fence stands open before it and is closed after it. -/
theorem Scan.append_of_not_swallowed {s : Text} {ps : List Piece} (h : Scan d s ps) (w : Text)
    (hn : ¬ (HasOpening d ps ∧ closing <:+: w)) :
    Scan d (s ++ (fr ++ w)) (ps ++ (fr.map .char ++ pieces d w)) := by
  induction h with
  | nil => exact hfr.scan_append (scan_pieces d w)
  | char h hr ih =>
    have ih := ih fun hcontra => hn ⟨hcontra.1.cons _, hcontra.2⟩
    rcases hfr.found?_append_cases (w := w) h with hnone | ⟨hc, o, inner, ho, heq, hinner⟩
    · exact .char hnone ih
    · exact absurd ⟨Scan.hasOpening (heq ▸ .char h hr) ho hinner, hc⟩ hn
  | fence h hr ih =>
    exact .fence (hfr.found?_append h w) (ih fun hcontra => hn ⟨hcontra.1.cons _, hcontra.2⟩)

/-- A fence that stands open before an inert text and is closed after it swallows the text. -/
theorem Scan.append_of_swallowed {s : Text} {ps : List Piece} (h : Scan d s ps) {w : Text}
    (ho : HasOpening d ps) (hc : closing <:+: w) :
    ∃ qs f rs x y, Scan d (s ++ (fr ++ w)) (qs ++ .fence f :: rs) ∧
      f.source = x ++ (fr ++ y) ∧ s = qs.flatMap Piece.raw ++ (f.opened ++ x) := by
  induction h with
  | nil => exact absurd ho not_hasOpening_nil
  | @char c r ps h hr ih =>
    by_cases hopen : ∃ o inner, IsOpening d o ∧ c :: r = o ++ inner
    · obtain ⟨o, inner, ho, heq⟩ := hopen
      rw [heq] at h ⊢
      obtain ⟨y, e, t, hfound⟩ :=
        hfr.exists_found?_of_opening ho (found?_eq_none_iff.1 h o inner ho rfl) hc
      exact ⟨[], _, _, inner, y, .fence hfound (scan_pieces d t), rfl, rfl⟩
    · have hnone : found? d (c :: r ++ (fr ++ w)) = none := by
        rcases hfr.found?_append_cases (w := w) h with hnone | ⟨-, o, inner, ho, heq, -⟩
        · exact hnone
        · exact absurd ⟨o, inner, ho, heq⟩ hopen
      have hlater := (Scan.hasOpening_cases (.char h hr) ho).resolve_left hopen
      obtain ⟨qs, f, rs, x, y, hscan, hsource, rfl⟩ := ih hlater
      exact ⟨.char c :: qs, f, rs, x, y, .char hnone hscan, hsource, rfl⟩
  | @fence s r g ps h hr ih =>
    have hlater : HasOpening d ps := by
      rcases ho.cases with ⟨o, b, ho, heq⟩ | hlater
      · obtain ⟨c, o, rfl⟩ := List.exists_cons_of_ne_nil ho.ne_nil
        simp at heq
      · exact hlater
    obtain ⟨qs, f, rs, x, y, hscan, hsource, rfl⟩ := ih hlater
    refine ⟨.fence g :: qs, f, rs, x, y, .fence (hfr.found?_append h w) hscan, hsource, ?_⟩
    rw [← matched_append_of_found? h, List.flatMap_cons, List.append_assoc]
    rfl

end DocPreview.Diagram
