import DocPreview.Artifact.Sanitize
import Mathlib.Data.List.Infix

/-!
# Removing matches from a text

`Removal m x s ps t` says that a text `s` is read from its start on, that the stretches `ps` are
cut out of it, and that `t` is left: a match is cut out where one begins, else a character is kept.
The extent `x` tells whether this goes on behind a match. It is the graph of `removeAll` and
`removeFirst` for rules whose matches have at least one character, and the form in which the later
files use them.

## Main definitions

* `Advances`: a rule whose matches have at least one character.
* `Removal`: what is cut out of a text and what is left.

## Main results

* `removal_iff`: a text has exactly one removal, and its rest is computed by `remove`.
* `removal_nil_iff`: nothing is cut out exactly if nothing matches.
* `Removal.countP_eq`: each character is kept or cut out.
* `Removal.append_of_none`: a stretch in which nothing matches is kept.
-/

namespace DocPreview.Artifact

open Text

/-- A rule whose matches have at least one character. -/
def Advances (m : Matcher) : Prop :=
  ∀ s rest, m s = some rest → ∃ p, p ≠ [] ∧ s = p ++ rest

/-- Which matches are cut out of a text. -/
inductive Extent where
  | all
  | first
  deriving DecidableEq

/-- A text without its matches, or without the first one. -/
def remove (m : Matcher) : Extent → Text → Text
  | .all => removeAll m
  | .first => removeFirst m

/-- A text of which matches are cut out from left to right. -/
inductive Removal (m : Matcher) : Extent → Text → List Text → Text → Prop
  | nil {x : Extent} : Removal m x [] [] []
  | keep {x : Extent} {c : Char} {s t : Text} {ps : List Text} (h : m (c :: s) = none)
      (hs : Removal m x s ps t) : Removal m x (c :: s) ps (c :: t)
  | cut {p s t : Text} {ps : List Text} (hne : p ≠ []) (h : m (p ++ s) = some s)
      (hs : Removal m .all s ps t) : Removal m .all (p ++ s) (p :: ps) t
  | stop {p s : Text} (hne : p ≠ []) (h : m (p ++ s) = some s) :
      Removal m .first (p ++ s) [p] s

variable {m : Matcher} {x : Extent} {s t u : Text} {ps qs : List Text}

theorem Advances.nil (hm : Advances m) : m [] = none := by
  cases h : m [] with
  | none => rfl
  | some rest =>
    obtain ⟨p, hne, hp⟩ := hm [] rest h
    exact absurd (List.append_eq_nil_iff.1 hp.symm).1 hne

/-! ### Existence and uniqueness -/

theorem exists_removal_removeAllWithin (hm : Advances m) :
    ∀ (fuel : Nat) (s : Text), s.length ≤ fuel →
      ∃ ps, Removal m .all s ps (removeAllWithin m fuel s)
  | 0, s, h => by
    obtain rfl := List.length_eq_zero_iff.1 (Nat.le_zero.1 h)
    exact ⟨[], .nil⟩
  | _ + 1, [], _ => ⟨[], .nil⟩
  | fuel + 1, c :: r, h => by
    rw [removeAllWithin]
    cases hc : m (c :: r) with
    | none =>
      obtain ⟨ps, hps⟩ := exists_removal_removeAllWithin hm fuel r (Nat.le_of_succ_le_succ h)
      exact ⟨ps, .keep hc hps⟩
    | some rest =>
      obtain ⟨p, hne, hp⟩ := hm _ rest hc
      have hpos := List.length_pos_iff.2 hne
      have hlen := congrArg List.length hp
      rw [List.length_append] at hlen
      obtain ⟨ps, hps⟩ := exists_removal_removeAllWithin hm fuel rest (by omega)
      rw [hp] at hc ⊢
      exact ⟨p :: ps, .cut hne hc hps⟩

/-- What `remove` leaves is the rest of a removal. -/
theorem exists_removal (hm : Advances m) (x : Extent) (s : Text) :
    ∃ ps, Removal m x s ps (remove m x s) := by
  cases x with
  | all => exact exists_removal_removeAllWithin hm s.length s le_rfl
  | first =>
    rw [remove]
    induction s with
    | nil =>
      rw [removeFirst, hm.nil]
      exact ⟨[], .nil⟩
    | cons c s ih =>
      rw [removeFirst]
      cases hc : m (c :: s) with
      | none =>
        obtain ⟨ps, hps⟩ := ih
        exact ⟨ps, .keep hc hps⟩
      | some rest =>
        obtain ⟨p, hne, hp⟩ := hm _ rest hc
        rw [hp] at hc ⊢
        exact ⟨[p], .stop hne hc⟩

/-- A removal begins with a cut exactly where the rule matches. -/
theorem Removal.cases_of_eq_some {r : Text} (h : Removal m x s ps t) (hs : m s = some r)
    (hnil : m [] = none) : ∃ p qs, ps = p :: qs ∧ s = p ++ r ∧
      match x with
      | .all => Removal m .all r qs t
      | .first => qs = [] ∧ t = r := by
  cases h with
  | nil => rw [hnil] at hs; cases hs
  | keep h => rw [h] at hs; cases hs
  | cut _ h hr =>
    cases h.symm.trans hs
    exact ⟨_, _, rfl, rfl, hr⟩
  | stop _ h =>
    cases h.symm.trans hs
    exact ⟨_, _, rfl, rfl, rfl, rfl⟩

theorem Removal.unique (hs : Removal m x s ps t) (hu : Removal m x s qs u) (hnil : m [] = none) :
    ps = qs ∧ t = u := by
  induction hs generalizing qs u with
  | nil =>
    generalize hs : ([] : Text) = s at hu
    cases hu with
    | nil => exact ⟨rfl, rfl⟩
    | keep => cases hs
    | cut hne | stop hne => exact absurd (List.append_eq_nil_iff.1 hs.symm).1 hne
  | @keep x c s t ps h _ ih =>
    generalize hs : c :: s = s' at hu
    cases hu with
    | nil => cases hs
    | keep _ hr =>
      cases hs
      obtain ⟨rfl, rfl⟩ := ih hr
      exact ⟨rfl, rfl⟩
    | cut _ h' | stop _ h' => rw [← hs, h] at h'; cases h'
  | cut _ h _ ih =>
    obtain ⟨q, qs, rfl, hq, hr⟩ := hu.cases_of_eq_some h hnil
    obtain ⟨rfl, rfl⟩ := ih hr
    exact ⟨by rw [List.append_cancel_right hq], rfl⟩
  | stop _ h =>
    obtain ⟨q, qs, rfl, hq, rfl, rfl⟩ := hu.cases_of_eq_some h hnil
    exact ⟨by rw [List.append_cancel_right hq], rfl⟩

/-- A text has exactly one removal. -/
theorem removal_iff (hm : Advances m) : (∃ ps, Removal m x s ps t) ↔ remove m x s = t := by
  obtain ⟨qs, hqs⟩ := exists_removal hm x s
  constructor
  · rintro ⟨ps, hps⟩
    exact (hqs.unique hps hm.nil).2
  · rintro rfl
    exact ⟨qs, hqs⟩

/-! ### What is cut out and what is kept -/

/-- Nothing is cut out exactly if nothing matches. -/
theorem removal_nil_iff (hm : Advances m) :
    Removal m x s [] t ↔ t = s ∧ ∀ y, y <:+ s → m y = none := by
  constructor
  · intro h
    generalize hps : ([] : List Text) = ps at h
    induction h with
    | nil =>
      refine ⟨rfl, fun y hy => ?_⟩
      rw [List.suffix_nil.1 hy, hm.nil]
    | keep h _ ih =>
      obtain ⟨rfl, hnone⟩ := ih hps
      refine ⟨rfl, fun y hy => ?_⟩
      rcases List.suffix_cons_iff.1 hy with rfl | hy
      · exact h
      · exact hnone y hy
    | cut | stop => cases hps
  · rintro ⟨rfl, hnone⟩
    induction t with
    | nil => exact .nil
    | cons c t ih =>
      exact .keep (hnone _ List.suffix_rfl)
        (ih fun y hy => hnone y (hy.trans (List.suffix_cons ..)))

theorem remove_eq_self (hm : Advances m) (x : Extent) (h : ∀ y, y <:+ s → m y = none) :
    remove m x s = s :=
  (removal_iff hm).1 ⟨[], (removal_nil_iff hm).2 ⟨rfl, h⟩⟩

/-- Each stretch that is cut out is written as the rule asks. -/
theorem Removal.forall_mem {P : Text → Prop} (h : Removal m x s ps t)
    (hP : ∀ s r, m s = some r → ∃ p, P p ∧ s = p ++ r) : ∀ p ∈ ps, P p := by
  have hmatch {p s : Text} (h : m (p ++ s) = some s) : P p := by
    obtain ⟨q, hq, heq⟩ := hP _ _ h
    rwa [List.append_cancel_right heq]
  induction h with
  | nil => simp
  | keep _ _ ih => exact ih
  | cut _ h _ ih => exact List.forall_mem_cons.2 ⟨hmatch h, ih⟩
  | stop _ h => exact List.forall_mem_singleton.2 (hmatch h)

/-- Each character is kept or cut out. -/
theorem Removal.countP_eq (h : Removal m x s ps t) (q : Char → Bool) :
    s.countP q = t.countP q + ps.flatten.countP q := by
  induction h with
  | nil => rfl
  | keep _ _ ih => rw [List.countP_cons, List.countP_cons, ih]; omega
  | cut _ _ _ ih => rw [List.countP_append, List.flatten_cons, List.countP_append, ih]; omega
  | stop => rw [List.countP_append, List.flatten_singleton]; omega

theorem Removal.length_le_one (h : Removal m .first s ps t) : ps.length ≤ 1 := by
  generalize hx : Extent.first = x at h
  induction h with
  | nil => exact Nat.zero_le 1
  | keep _ _ ih => exact ih hx
  | cut => cases hx
  | stop => exact le_rfl

/-- What is matched only at the end of a text is cut off its end. -/
theorem Removal.append_flatten (h : Removal m x s ps t) (hm : ∀ s r, m s = some r → r = []) :
    t ++ ps.flatten = s := by
  induction h with
  | nil => rfl
  | keep _ _ ih => rw [List.cons_append, ih]
  | cut _ h hs ih =>
    obtain rfl := hm _ _ h
    obtain ⟨rfl, hnil⟩ := List.append_eq_nil_iff.1 ih
    rw [List.flatten_cons, hnil]
    rfl
  | stop _ h =>
    obtain rfl := hm _ _ h
    simp

/-- A stretch in which nothing matches is kept. -/
theorem Removal.append_of_none (h : Removal m x t ps u)
    (hs : ∀ y, y <:+ s → y ≠ [] → m (y ++ t) = none) : Removal m x (s ++ t) ps (s ++ u) := by
  induction s with
  | nil => exact h
  | cons c s ih =>
    exact .keep (hs _ List.suffix_rfl (List.cons_ne_nil _ _))
      (ih fun y hy => hs y (hy.trans (List.suffix_cons ..)))

end DocPreview.Artifact
