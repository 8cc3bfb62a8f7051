import DocPreview.Proofs.Artifact.Rule
import Mathlib.Logic.Function.Iterate

/-!
# Sanitizing an artifact again

A sanitized artifact has no white space around it and mentions a return. It is sanitized again to
itself exactly if no rule matches in it, which need not be: the first run removes one strict-mode
marker and one return of the exports only, and joins what stood around a match. Each run that
changes a sanitized artifact removes a character that begins the part by which a rule is
recognized, and none is added, so the runs settle.

## Main definitions

* `isMark`: the characters of which every match has one, and the return that is added has none.

## Main results

* `exists_removals`: what sanitizing an artifact cuts out of it.
* `isUnmarked_of_countP_le`: a run that removes no mark finds no match.
* `sanitize_settles`: when a second run changes nothing, and how many runs change something.
-/

namespace DocPreview.Artifact

open Text

variable {s raw body : Text}

/-! ### The return that is added -/

theorem mentions_withReturn (body : Text) : mentions "return".toList (withReturn body) := by
  rw [withReturn]
  split
  · assumption
  · have hfallback : mentions "return".toList fallbackReturn := by decide +kernel
    split
    · exact hfallback
    · exact mentions_append_cons (by decide +kernel) hfallback

theorem withReturn_of_mentions (h : mentions "return".toList body) : withReturn body = body :=
  if_pos h

theorem trim_withReturn (h : trim body = body) : trim (withReturn body) = withReturn body := by
  obtain ⟨hstart, -⟩ := trim_eq_self_iff.1 h
  rw [withReturn]
  split
  · exact h
  · split
    · decide +kernel
    · next hne =>
      obtain ⟨c, r, rfl⟩ := List.exists_cons_of_ne_nil (mt List.isEmpty_iff.2 hne)
      have hc : ¬ isBlank c := head?_trimStart (s := c :: r) (by rw [hstart, List.head?_cons])
      have hend : trimEnd ('\n' :: fallbackReturn) = '\n' :: fallbackReturn := by decide
      refine trim_eq_self_iff.2 ⟨List.dropWhile_cons_of_neg hc, ?_⟩
      rw [trimEnd, dropEndWhile_append_of_ne_nil (by rw [← trimEnd, hend]; simp), ← trimEnd, hend]

/-- The characters of which every match has one, and the return that is added has none. -/
def isMark (c : Char) : Bool := c = '@' || c = '"' || c = '\'' || c = '\x7b'

theorem countP_isMark_withReturn (body : Text) :
    (withReturn body).countP isMark = body.countP isMark := by
  rw [withReturn]
  split
  · rfl
  · split
    · next h => rw [List.isEmpty_iff.1 h]; decide
    · have hnone : ('\n' :: fallbackReturn).countP isMark = 0 := by decide
      rw [List.countP_append, hnone, Nat.add_zero]

theorem countP_isMark_pos {c : Char} (hc : isMark c) {p : Text} (h : c ∈ p) :
    0 < p.countP isMark :=
  List.countP_pos_iff.2 ⟨c, h, hc⟩

theorem IsPragma.countP_isMark_pos {p : Text} (h : IsPragma p) : 0 < p.countP isMark := by
  obtain ⟨_, _, ⟨_, _, _, _, rfl, -⟩, -, rfl⟩ := h
  exact Artifact.countP_isMark_pos (c := '@') (by decide) (by simp)

theorem IsStrictMarker.countP_isMark_pos {p : Text} (h : IsStrictMarker p) :
    0 < p.countP isMark := by
  obtain ⟨q, _, _, _, hq, -, -, -, rfl⟩ := h
  refine Artifact.countP_isMark_pos (c := q) ?_ List.mem_cons_self
  rcases hq with rfl | rfl <;> decide

theorem IsExportReturn.countP_isMark_pos {p : Text} (h : IsExportReturn p) :
    0 < p.countP isMark := by
  obtain ⟨_, _, _, _, _, rfl, hspells, -⟩ := h
  obtain ⟨_, _, -, rfl, -⟩ := hspells
  exact Artifact.countP_isMark_pos (c := '\x7b') (by decide) (by simp)

/-! ### The runs -/

/-- What sanitizing cuts out of an artifact, and what it leaves. -/
theorem exists_removals (raw : Text) : ∃ settings t marker u ending v,
    Removal pragma .all raw settings t ∧ Removal strictMarker .first t marker u ∧
      Removal exportReturn .first u ending v ∧ sanitize raw = withReturn (trim v) := by
  obtain ⟨settings, hsettings⟩ := exists_removal advances_pragma .all raw
  obtain ⟨marker, hmarker⟩ := exists_removal advances_strictMarker .first (remove pragma .all raw)
  obtain ⟨ending, hending⟩ := exists_removal advances_exportReturn .first
    (remove strictMarker .first (remove pragma .all raw))
  exact ⟨settings, _, marker, _, ending, _, hsettings, hmarker, hending, rfl⟩

/-- No rule matches in a text. -/
def IsUnmarked (s : Text) : Prop :=
  ∀ y, y <:+ s → pragma y = none ∧ strictMarker y = none ∧ exportReturn y = none

theorem sanitize_of_isUnmarked (h : IsUnmarked raw) : sanitize raw = withReturn (trim raw) := by
  have hpragma : removeAll pragma raw = raw :=
    remove_eq_self advances_pragma .all fun y hy => (h y hy).1
  have hmarker : removeFirst strictMarker raw = raw :=
    remove_eq_self advances_strictMarker .first fun y hy => (h y hy).2.1
  have hreturn : removeFirst exportReturn raw = raw :=
    remove_eq_self advances_exportReturn .first fun y hy => (h y hy).2.2
  rw [sanitize, hpragma, hmarker, hreturn]

theorem eq_nil_of_countP_flatten {P : Text → Prop} {ps : List Text} (h : ∀ p ∈ ps, P p)
    (hP : ∀ p, P p → 0 < p.countP isMark) (hzero : ps.flatten.countP isMark = 0) : ps = [] := by
  cases ps with
  | nil => rfl
  | cons p ps =>
    have hpos := hP p (h p List.mem_cons_self)
    rw [List.flatten_cons, List.countP_append] at hzero
    omega

/-- A run that removes no mark finds no match. -/
theorem isUnmarked_of_countP_le (h : raw.countP isMark ≤ (sanitize raw).countP isMark) :
    IsUnmarked raw := by
  obtain ⟨settings, t, marker, u, ending, v, hsettings, hmarker, hending, hsanitize⟩ :=
    exists_removals raw
  have hle := countP_trim_le isMark v
  rw [hsanitize, countP_isMark_withReturn, hsettings.countP_eq, hmarker.countP_eq,
    hending.countP_eq] at h
  obtain rfl := eq_nil_of_countP_flatten (hsettings.forall_mem exists_isPragma)
    (fun _ => IsPragma.countP_isMark_pos) (by omega)
  obtain rfl := eq_nil_of_countP_flatten (hmarker.forall_mem exists_isStrictMarker)
    (fun _ => IsStrictMarker.countP_isMark_pos) (by omega)
  obtain rfl := eq_nil_of_countP_flatten (hending.forall_mem exists_isExportReturn)
    (fun _ => IsExportReturn.countP_isMark_pos) (by omega)
  obtain ⟨rfl, hpragma⟩ := (removal_nil_iff advances_pragma).1 hsettings
  obtain ⟨rfl, hstrict⟩ := (removal_nil_iff advances_strictMarker).1 hmarker
  obtain ⟨rfl, hreturn⟩ := (removal_nil_iff advances_exportReturn).1 hending
  exact fun y hy => ⟨hpragma y hy, hstrict y hy, hreturn y hy⟩

theorem trim_sanitize (raw : Text) : trim (sanitize raw) = sanitize raw :=
  trim_withReturn (trim_trim _)

theorem mentions_sanitize (raw : Text) : mentions "return".toList (sanitize raw) :=
  mentions_withReturn _

/-- A sanitized artifact is sanitized to itself exactly if no rule matches in it. -/
theorem sanitize_sanitize_eq_iff :
    sanitize (sanitize raw) = sanitize raw ↔ IsUnmarked (sanitize raw) := by
  constructor
  · intro h
    exact isUnmarked_of_countP_le (by rw [h])
  · intro h
    rw [sanitize_of_isUnmarked h, trim_sanitize, withReturn_of_mentions (mentions_sanitize raw)]

/-- A run on a sanitized artifact changes nothing or removes a mark. -/
theorem sanitize_sanitize_eq_or_lt (raw : Text) : sanitize (sanitize raw) = sanitize raw ∨
    (sanitize (sanitize raw)).countP isMark < (sanitize raw).countP isMark := by
  by_cases h : (sanitize raw).countP isMark ≤ (sanitize (sanitize raw)).countP isMark
  · exact Or.inl (sanitize_sanitize_eq_iff.2 (isUnmarked_of_countP_le h))
  · exact Or.inr (Nat.lt_of_not_le h)

theorem countP_sanitize_le (raw : Text) :
    (sanitize raw).countP isMark ≤ raw.countP isMark := by
  by_cases h : raw.countP isMark ≤ (sanitize raw).countP isMark
  · rw [sanitize_of_isUnmarked (isUnmarked_of_countP_le h), countP_isMark_withReturn]
    exact countP_trim_le isMark raw
  · exact (Nat.lt_of_not_le h).le

/-- As many runs as an artifact has marks, and one more, leave what another run does not change. -/
theorem sanitize_iterate_eq_of_countP_le {n : Nat} (h : (sanitize raw).countP isMark ≤ n) :
    sanitize (sanitize^[n] (sanitize raw)) = sanitize^[n] (sanitize raw) := by
  induction n generalizing raw with
  | zero =>
    rcases sanitize_sanitize_eq_or_lt raw with heq | hlt
    · exact heq
    · omega
  | succ n ih =>
    rcases sanitize_sanitize_eq_or_lt raw with heq | hlt
    · rw [Function.iterate_fixed heq, heq]
    · rw [Function.iterate_succ_apply]
      exact ih (by omega)

/-- A second run changes nothing exactly if no rule matches in what the first one leaves. After at
most as many runs as the artifact has marks, and one more, no run changes anything. -/
theorem sanitize_settles (raw : Text) :
    (sanitize (sanitize raw) = sanitize raw ↔ ∀ y, y <:+ sanitize raw →
      pragma y = none ∧ strictMarker y = none ∧ exportReturn y = none) ∧
    ∀ n, raw.countP isMark ≤ n →
      sanitize (sanitize^[n + 1] raw) = sanitize^[n + 1] raw := by
  refine ⟨sanitize_sanitize_eq_iff, fun n hn => ?_⟩
  rw [Function.iterate_succ_apply]
  exact sanitize_iterate_eq_of_countP_le ((countP_sanitize_le raw).trans hn)

/-- The marker at the start is removed by the first run, and a literal that reads alike by the
second one. -/
theorem second_run_removes_literal :
    let raw := "\"use strict\";\nconst a = 'use strict';\nreturn a;".toList
    sanitize raw = "const a = 'use strict';\nreturn a;".toList ∧
      sanitize (sanitize raw) = "const a = return a;".toList := by
  decide +kernel

end DocPreview.Artifact
