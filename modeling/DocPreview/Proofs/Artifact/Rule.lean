import DocPreview.Proofs.Artifact.Removal
import DocPreview.Proofs.Artifact.Word
import Mathlib.Data.Option.Basic

/-!
# What the rules for artifacts match

Each rule is characterized by the written form of what it matches: a comment with a setting of
elements, a strict-mode marker, and the return of the exports of a module. The words of the return
are written with white space between them, which `Spells` describes.

## Main definitions

* `IsLineRest`: what goes with a match to the end of its line.
* `IsPragma`, `IsStrictMarker`: a comment with a setting of elements and a strict-mode marker.
* `Spells`: a text that begins with some words, with white space before each of them.
* `IsExportReturn`: the return of the exports of a module.

## Main results

* `pragma_eq_some_iff`, `strictMarker_eq_some_iff`, `exportReturn_eq_some_iff`: what the rules
  match, and what is left behind a match.
* `exists_isPragma`, `exists_isStrictMarker`, `exists_isExportReturn`: a match is cut off the start
  of a text.
-/

namespace DocPreview.Artifact

open Text

variable {s t r : Text}

/-! ### What is dropped -/

theorem dropWhile_append_cons {p : Char → Bool} {a : Text} {c : Char} (ha : ∀ d ∈ a, p d)
    (hc : p c = false) (b : Text) : (a ++ c :: b).dropWhile p = c :: b := by
  rw [List.dropWhile_append_of_pos ha, List.dropWhile_cons_of_neg (by simp [hc])]

theorem exists_dropWhile (p : Char → Bool) (s : Text) :
    ∃ a, (∀ c ∈ a, p c) ∧ s = a ++ s.dropWhile p :=
  ⟨s.takeWhile p, fun _ hc => List.mem_takeWhile_imp hc, List.takeWhile_append_dropWhile.symm⟩

/-- Blanks and tabs, with or without a line feed behind them. -/
def IsLineRest (g : Text) : Prop :=
  ∃ b, (∀ c ∈ b, c = ' ' ∨ c = '\t') ∧ (g = b ∨ g = b ++ ['\n'])

/-- What `dropLineRest` drops. -/
theorem exists_dropLineRest (s : Text) : ∃ g, IsLineRest g ∧ s = g ++ dropLineRest s := by
  obtain ⟨b, hb, hs⟩ := exists_dropWhile (fun c => c = ' ' || c = '\t') s
  have hb' : ∀ c ∈ b, c = ' ' ∨ c = '\t' := fun c hc => by simpa using hb c hc
  rw [dropLineRest]
  split
  · next r heq =>
    refine ⟨b ++ ['\n'], ⟨b, hb', Or.inr rfl⟩, ?_⟩
    rw [List.append_assoc, List.singleton_append, ← heq]
    exact hs
  · exact ⟨b, ⟨b, hb', Or.inl rfl⟩, hs⟩

theorem dropOptional_cons_self (c : Char) (s : Text) : dropOptional c (c :: s) = s := if_pos rfl

theorem dropOptional_of_head?_ne {c : Char} (h : s.head? ≠ some c) : dropOptional c s = s := by
  cases s with
  | nil => rfl
  | cons d s => exact if_neg fun hd => h (by rw [hd, List.head?_cons])

/-- What `dropOptional` drops. -/
theorem exists_dropOptional (c : Char) (s : Text) :
    ∃ o, (o = [] ∨ o = [c]) ∧ s = o ++ dropOptional c s := by
  by_cases h : s.head? = some c
  · obtain ⟨r, rfl⟩ := List.head?_eq_some_iff.1 h
    exact ⟨[c], Or.inr rfl, by rw [dropOptional_cons_self]; rfl⟩
  · exact ⟨[], Or.inl rfl, by rw [dropOptional_of_head?_ne h]; rfl⟩

/-! ### Settings of elements -/

/-- What stands between the delimiters of a comment with a setting of elements. -/
def IsSetting (inner : Text) : Prop :=
  ∃ star blank word text, inner = star ++ (blank ++ ("@jsx".toList ++ (word ++ text))) ∧
    (star = [] ∨ star = ['*']) ∧ (∀ c ∈ blank, isBlank c) ∧ (∀ c ∈ word, c.isAlpha) ∧
    '*' ∉ text ∧ startsWithWord text = false

theorem startsWithWord_append_star (text rest : Text) :
    startsWithWord (text ++ '*' :: rest) = startsWithWord text := by
  cases text with
  | nil =>
    have hstar : Unicode.isWord '*' = false := by decide +kernel
    exact hstar
  | cons c text => rfl

/-- A text that starts with no character of a word starts with no letter. -/
theorem dropWhile_isAlpha_of_startsWithWord (h : startsWithWord s = false) :
    s.dropWhile Char.isAlpha = s := by
  cases s with
  | nil => rfl
  | cons c s =>
    refine List.dropWhile_cons_of_neg fun hc => ?_
    rw [startsWithWord, List.head?_cons, Option.any_some, isWord_of_isAlpha hc] at h
    cases h

/-- What is read up to the setting in a comment. -/
theorem dropWhile_dropOptional_star {star blank : Text} (hstar : star = [] ∨ star = ['*'])
    (hblank : ∀ c ∈ blank, isBlank c) (rest : Text) :
    (dropOptional '*' (star ++ (blank ++ '@' :: rest))).dropWhile isBlank = '@' :: rest := by
  rcases hstar with rfl | rfl
  · have hhead : (blank ++ '@' :: rest).head? ≠ some '*' := by
      cases blank with
      | nil => simp
      | cons c blank =>
        rw [List.cons_append, List.head?_cons]
        rintro h
        cases h
        exact absurd (hblank _ List.mem_cons_self) (by decide)
    rw [List.nil_append, dropOptional_of_head?_ne hhead]
    exact dropWhile_append_cons hblank (by decide) rest
  · rw [List.singleton_append, dropOptional_cons_self]
    exact dropWhile_append_cons hblank (by decide) rest

/-- The comments with a setting of elements are those of this form; the rest of the line goes
with them. -/
theorem pragma_eq_some_iff : pragma s = some r ↔ ∃ inner tail, IsSetting inner ∧
    s = "/*".toList ++ (inner ++ ("*/".toList ++ tail)) ∧ r = dropLineRest tail := by
  constructor
  · intro h
    simp only [pragma, Option.bind_eq_bind, Option.bind_eq_some_iff, Option.pure_def,
      Option.some.injEq] at h
    obtain ⟨opened, hopened, setting, hsetting, _, hguard, tail, htail, rfl⟩ := h
    have hword : startsWithWord (setting.dropWhile Char.isAlpha) = false := by
      cases hw : startsWithWord (setting.dropWhile Char.isAlpha) with
      | false => rfl
      | true => simp [hw, guard, failure] at hguard
    obtain ⟨star, hstar, hopen⟩ := exists_dropOptional '*' opened
    obtain ⟨blank, hblank, hskip⟩ := exists_dropWhile isBlank (dropOptional '*' opened)
    obtain ⟨word, hletters, hrest⟩ := exists_dropWhile Char.isAlpha setting
    obtain ⟨text, htext, hclose⟩ := exists_dropWhile (fun c => decide (c ≠ '*'))
      (setting.dropWhile Char.isAlpha)
    rw [eq_append_of_after? htail] at hclose
    refine ⟨star ++ (blank ++ ("@jsx".toList ++ (word ++ text))), tail,
      ⟨star, blank, word, text, rfl, hstar, hblank, hletters, fun hmem => ?_, ?_⟩, ?_, rfl⟩
    · simpa using htext _ hmem
    · rw [← hword, hclose]
      exact (startsWithWord_append_star ..).symm
    · rw [eq_append_of_after? hopened, hopen, hskip, eq_append_of_after? hsetting, hrest, hclose]
      simp only [List.append_assoc]
  · rintro ⟨inner, tail, ⟨star, blank, word, text, rfl, hstar, hblank, hletters, htext, hword⟩,
      rfl, rfl⟩
    have hskip : (dropOptional '*' (star ++ (blank ++ ("@jsx".toList ++ (word ++ text))) ++
        ("*/".toList ++ tail))).dropWhile isBlank =
        "@jsx".toList ++ (word ++ (text ++ ("*/".toList ++ tail))) := by
      simp only [List.append_assoc]
      exact dropWhile_dropOptional_star hstar hblank _
    have hstart : startsWithWord (text ++ ("*/".toList ++ tail)) = false :=
      (startsWithWord_append_star ..).trans hword
    have hname : (word ++ (text ++ ("*/".toList ++ tail))).dropWhile Char.isAlpha =
        text ++ ("*/".toList ++ tail) := by
      rw [List.dropWhile_append_of_pos hletters, dropWhile_isAlpha_of_startsWithWord hstart]
    have hclose : (text ++ ("*/".toList ++ tail)).dropWhile (fun c => decide (c ≠ '*')) =
        "*/".toList ++ tail :=
      dropWhile_append_cons (fun c hc => decide_eq_true (ne_of_mem_of_not_mem hc htext))
        (by decide) _
    simp only [pragma, after?_append, Option.bind_eq_bind, Option.bind_some, hskip, hname, hstart,
      hclose, Option.pure_def, guard, Bool.not_false, if_true]

/-- A comment with a setting of elements, and what goes with it. -/
def IsPragma (p : Text) : Prop :=
  ∃ inner g, IsSetting inner ∧ IsLineRest g ∧ p = "/*".toList ++ (inner ++ ("*/".toList ++ g))

theorem exists_isPragma (s r : Text) (h : pragma s = some r) : ∃ p, IsPragma p ∧ s = p ++ r := by
  obtain ⟨inner, tail, hinner, rfl, rfl⟩ := pragma_eq_some_iff.1 h
  obtain ⟨g, hg, htail⟩ := exists_dropLineRest tail
  refine ⟨_, ⟨inner, g, hinner, hg, rfl⟩, ?_⟩
  conv_lhs => rw [htail]
  simp only [List.append_assoc]

theorem advances_pragma : Advances pragma := by
  intro s r h
  obtain ⟨p, ⟨inner, g, -, -, rfl⟩, hs⟩ := exists_isPragma s r h
  exact ⟨_, by simp, hs⟩

/-! ### The strict-mode marker -/

/-- The quotes around the strict-mode marker. -/
def IsQuote (c : Char) : Prop := c = '"' ∨ c = '\''

/-- The strict-mode marker stands between any two quotes; a semicolon and the rest of the line go
with it. -/
theorem strictMarker_eq_some_iff : strictMarker s = some r ↔ ∃ q q' tail, IsQuote q ∧ IsQuote q' ∧
    s = q :: ("use strict".toList ++ q' :: tail) ∧ r = dropLineRest (dropOptional ';' tail) := by
  constructor
  · intro h
    obtain ⟨q, q', opened, tail, hq, hq', rfl, hopened, rfl⟩ : ∃ q q' opened tail, IsQuote q ∧
        IsQuote q' ∧ s = q :: opened ∧ after? "use strict".toList opened = some (q' :: tail) ∧
        r = dropLineRest (dropOptional ';' tail) := by
      unfold strictMarker at h
      split at h
      · obtain ⟨closed, hclosed, h⟩ := Option.bind_eq_some_iff.1 h
        split at h
        · exact ⟨_, _, _, _, Or.inl rfl, Or.inl rfl, rfl, hclosed, (Option.some.inj h).symm⟩
        · exact ⟨_, _, _, _, Or.inl rfl, Or.inr rfl, rfl, hclosed, (Option.some.inj h).symm⟩
        · cases h
      · obtain ⟨closed, hclosed, h⟩ := Option.bind_eq_some_iff.1 h
        split at h
        · exact ⟨_, _, _, _, Or.inr rfl, Or.inl rfl, rfl, hclosed, (Option.some.inj h).symm⟩
        · exact ⟨_, _, _, _, Or.inr rfl, Or.inr rfl, rfl, hclosed, (Option.some.inj h).symm⟩
        · cases h
      · cases h
    exact ⟨q, q', tail, hq, hq', by rw [eq_append_of_after? hopened], rfl⟩
  · rintro ⟨q, q', tail, rfl | rfl, rfl | rfl, rfl, rfl⟩ <;>
      simp only [strictMarker, after?_append, Option.bind_eq_bind, Option.bind_some,
        Option.pure_def]

/-- A strict-mode marker, and what goes with it. -/
def IsStrictMarker (p : Text) : Prop :=
  ∃ q q' o g, IsQuote q ∧ IsQuote q' ∧ (o = [] ∨ o = [';']) ∧ IsLineRest g ∧
    p = q :: ("use strict".toList ++ q' :: (o ++ g))

theorem exists_isStrictMarker (s r : Text) (h : strictMarker s = some r) :
    ∃ p, IsStrictMarker p ∧ s = p ++ r := by
  obtain ⟨q, q', tail, hq, hq', rfl, rfl⟩ := strictMarker_eq_some_iff.1 h
  obtain ⟨o, ho, htail⟩ := exists_dropOptional ';' tail
  obtain ⟨g, hg, hrest⟩ := exists_dropLineRest (dropOptional ';' tail)
  refine ⟨_, ⟨q, q', o, g, hq, hq', ho, hg, rfl⟩, ?_⟩
  conv_lhs => rw [htail, hrest]
  simp only [List.append_assoc, List.cons_append]

theorem advances_strictMarker : Advances strictMarker := by
  intro s r h
  obtain ⟨p, ⟨q, q', o, g, -, -, -, -, rfl⟩, hs⟩ := exists_isStrictMarker s r h
  exact ⟨_, List.cons_ne_nil _ _, hs⟩

/-! ### Words between white space -/

/-- A text that begins with some words, with white space before each of them, and what follows. -/
def Spells : List Text → Text → Text → Prop
  | [], s, r => s = r
  | x :: xs, s, r => ∃ w t, (∀ c ∈ w, isBlank c) ∧ s = w ++ (x ++ t) ∧ Spells xs t r

@[simp] theorem spells_nil_iff : Spells [] s r ↔ s = r := Iff.rfl

theorem spells_append_iff {xs ys : List Text} :
    Spells (xs ++ ys) s r ↔ ∃ t, Spells xs s t ∧ Spells ys t r := by
  induction xs generalizing s with
  | nil => simp [Spells]
  | cons x xs ih =>
    simp only [List.cons_append, Spells, ih]
    constructor
    · rintro ⟨w, u, hw, rfl, t, ht, hr⟩
      exact ⟨t, ⟨w, u, hw, rfl, ht⟩, hr⟩
    · rintro ⟨t, ⟨w, u, hw, rfl, ht⟩, hr⟩
      exact ⟨w, u, hw, rfl, t, ht, hr⟩

theorem Spells.suffix {xs : List Text} (h : Spells xs s r) : r <:+ s := by
  induction xs generalizing s with
  | nil => exact h ▸ List.suffix_rfl
  | cons x xs ih =>
    obtain ⟨w, t, -, rfl, ht⟩ := h
    exact (ih ht).trans ((List.suffix_append x t).trans (List.suffix_append w _))

/-- What is no white space stands in the words or behind them. -/
theorem Spells.countP_eq {xs : List Text} (h : Spells xs s r) {q : Char → Bool}
    (hq : ∀ c, isBlank c → q c = false) : s.countP q = xs.flatten.countP q + r.countP q := by
  induction xs generalizing s with
  | nil =>
    cases h
    simp
  | cons x xs ih =>
    obtain ⟨w, t, hw, rfl, ht⟩ := h
    have hnone : w.countP q = 0 := List.countP_eq_zero.2 fun c hc => by simp [hq c (hw c hc)]
    rw [List.countP_append, List.countP_append, List.flatten_cons, List.countP_append, ih ht, hnone]
    omega

theorem skipBlank_skipBlank (s : Text) : skipBlank (skipBlank s) = skipBlank s :=
  List.dropWhile_idempotent ..

/-- A word is read behind white space. -/
theorem after?_skipBlank_eq_some_iff {c : Char} {x : Text} (hc : isBlank c = false) :
    after? (c :: x) (skipBlank s) = some r ↔ Spells [c :: x] s r := by
  constructor
  · intro h
    obtain ⟨w, hw, hs⟩ := exists_dropWhile isBlank s
    refine ⟨w, r, hw, ?_, rfl⟩
    rw [← eq_append_of_after? h]
    exact hs
  · rintro ⟨w, t, hw, rfl, rfl⟩
    rw [skipBlank, List.cons_append, dropWhile_append_cons hw hc, ← List.cons_append, after?_append]

/-- A word is read behind a character that may be missing. -/
theorem after?_skipBlank_dropOptional_eq_some_iff {o c : Char} {x : Text}
    (ho : isBlank o = false) (hc : isBlank c = false) (hne : o ≠ c) :
    after? (c :: x) (skipBlank (dropOptional o (skipBlank s))) = some r ↔
      ∃ b : Bool, Spells ((if b then [[o]] else []) ++ [c :: x]) s r := by
  simp only [Bool.exists_bool, Bool.false_eq_true, if_false, if_true, spells_append_iff,
    spells_nil_iff, exists_eq_left', ← after?_skipBlank_eq_some_iff ho,
    ← after?_skipBlank_eq_some_iff hc]
  by_cases h : (skipBlank s).head? = some o
  · obtain ⟨t, ht⟩ := List.head?_eq_some_iff.1 h
    simp [ht, dropOptional, after?, hne.symm]
  · rw [dropOptional_of_head?_ne h, skipBlank_skipBlank]
    refine ⟨Or.inl, ?_⟩
    rintro (hr | ⟨t, ht, -⟩)
    · exact hr
    · rw [eq_append_of_after? ht] at h
      exact absurd rfl h

/-! ### The return of the exports -/

/-- The words of the return of the exports behind its first one; three parts of it may be
missing. -/
def exportWords (hasMember hasComma hasSemicolon : Bool) : List Text :=
  [['\x7b']] ++
    (((if hasMember then ["frontmatter".toList, [',']] else []) ++ ["default".toList]) ++
      ([[':']] ++ (["MDXContent".toList] ++ (((if hasComma then [[',']] else []) ++ [['\x7d']]) ++
        (if hasSemicolon then [[';']] else [])))))

/-- The return of the exports of a module, with white space between its words and behind them. -/
def IsExportReturn (s : Text) : Prop :=
  ∃ hasMember hasComma hasSemicolon t r, s = "return".toList ++ t ∧
    Spells (exportWords hasMember hasComma hasSemicolon) t r ∧ ∀ c ∈ r, isBlank c

/-- The member `frontmatter` may be missing. -/
theorem after?_skipFrontMatterMember_eq_some_iff :
    after? "default".toList (skipFrontMatterMember (skipBlank s)) = some r ↔
      ∃ b : Bool, Spells ((if b then ["frontmatter".toList, [',']] else []) ++ ["default".toList])
        s r := by
  have hmember {u : Text} : Spells ["frontmatter".toList, [',']] s u ↔
      ∃ t, after? "frontmatter".toList (skipBlank s) = some t ∧
        after? [','] (skipBlank t) = some u := by
    rw [← List.singleton_append, spells_append_iff]
    exact exists_congr fun t => and_congr (after?_skipBlank_eq_some_iff (by decide)).symm
      (after?_skipBlank_eq_some_iff (by decide)).symm
  have hdefault {u : Text} : Spells ["default".toList] u r ↔
      after? "default".toList (skipBlank u) = some r :=
    (after?_skipBlank_eq_some_iff (by decide)).symm
  simp only [Bool.exists_bool, Bool.false_eq_true, if_false, if_true, spells_append_iff,
    spells_nil_iff, exists_eq_left', hmember, hdefault]
  cases hs : after? "frontmatter".toList (skipBlank s) with
  | none =>
    have hskip : skipFrontMatterMember (skipBlank s) = skipBlank s := by
      rw [skipFrontMatterMember, hs]
    simp only [hskip, reduceCtorEq, false_and, exists_false, or_false]
  | some t =>
    have hnone : after? "default".toList (skipBlank s) = none := by
      rw [eq_append_of_after? hs]
      rfl
    cases ht : after? [','] (skipBlank t) with
    | none =>
      have hskip : skipFrontMatterMember (skipBlank s) = skipBlank s := by
        rw [skipFrontMatterMember, hs]
        dsimp only
        split
        · next heq => rw [heq] at ht; cases ht
        · rfl
      simp only [hskip, hnone, ht, Option.some.injEq, exists_eq_left', reduceCtorEq, false_and,
        exists_false, or_self]
    | some u =>
      have hskip : skipFrontMatterMember (skipBlank s) = skipBlank u := by
        rw [skipFrontMatterMember, hs]
        dsimp only
        rw [eq_append_of_after? ht]
        rfl
      simp only [hskip, hnone, ht, Option.some.injEq, exists_eq_left', reduceCtorEq, false_or]

theorem isEmpty_skipBlank_iff : (skipBlank s).isEmpty ↔ ∀ c ∈ s, isBlank c := by
  rw [List.isEmpty_iff]
  exact List.dropWhile_eq_nil_iff

/-- A semicolon may stand before the white space at the end. -/
theorem isEmpty_skipBlank_dropOptional_iff :
    (skipBlank (dropOptional ';' (skipBlank s))).isEmpty ↔
      ∃ (b : Bool) (r : Text), Spells (if b then [[';']] else []) s r ∧ ∀ c ∈ r, isBlank c := by
  simp only [Bool.exists_bool, Bool.false_eq_true, if_false, if_true, spells_nil_iff,
    exists_eq_left', ← isEmpty_skipBlank_iff,
    ← after?_skipBlank_eq_some_iff (show isBlank ';' = false by decide)]
  by_cases h : (skipBlank s).head? = some ';'
  · obtain ⟨t, ht⟩ := List.head?_eq_some_iff.1 h
    simp [ht, dropOptional, after?]
  · rw [dropOptional_of_head?_ne h, skipBlank_skipBlank]
    refine ⟨Or.inl, ?_⟩
    rintro (hr | ⟨t, ht, -⟩)
    · exact hr
    · rw [eq_append_of_after? ht] at h
      exact absurd rfl h

/-- The return of the exports is matched at the end of a text only. -/
theorem exportReturn_eq_some_iff : exportReturn s = some r ↔ IsExportReturn s ∧ r = [] := by
  constructor
  · intro h
    simp only [exportReturn, Option.bind_eq_bind, Option.bind_eq_some_iff, Option.pure_def,
      Option.some.injEq] at h
    obtain ⟨t, ht, t₁, h₁, t₂, h₂, t₃, h₃, t₄, h₄, t₅, h₅, _, hguard, rfl⟩ := h
    have hend : (skipBlank (dropOptional ';' (skipBlank t₅))).isEmpty := by
      by_contra hne
      simp [hne, guard, failure] at hguard
    have hbrace := (after?_skipBlank_eq_some_iff (by decide)).1 h₁
    obtain ⟨hasMember, hmember⟩ := after?_skipFrontMatterMember_eq_some_iff.1 h₂
    have hcolon := (after?_skipBlank_eq_some_iff (by decide)).1 h₃
    have hcontent := (after?_skipBlank_eq_some_iff (by decide)).1 h₄
    obtain ⟨hasComma, hcomma⟩ := (after?_skipBlank_dropOptional_eq_some_iff (by decide)
      (by decide) (by decide)).1 h₅
    obtain ⟨hasSemicolon, rest, hrest, hblank⟩ := isEmpty_skipBlank_dropOptional_iff.1 hend
    refine ⟨⟨hasMember, hasComma, hasSemicolon, t, rest, eq_append_of_after? ht, ?_, hblank⟩, rfl⟩
    exact spells_append_iff.2 ⟨t₁, hbrace, spells_append_iff.2 ⟨t₂, hmember,
      spells_append_iff.2 ⟨t₃, hcolon, spells_append_iff.2 ⟨t₄, hcontent,
        spells_append_iff.2 ⟨t₅, hcomma, hrest⟩⟩⟩⟩⟩
  · rintro ⟨⟨hasMember, hasComma, hasSemicolon, t, rest, rfl, h, hblank⟩, rfl⟩
    obtain ⟨t₁, hbrace, h⟩ := spells_append_iff.1 h
    obtain ⟨t₂, hmember, h⟩ := spells_append_iff.1 h
    obtain ⟨t₃, hcolon, h⟩ := spells_append_iff.1 h
    obtain ⟨t₄, hcontent, h⟩ := spells_append_iff.1 h
    obtain ⟨t₅, hcomma, hrest⟩ := spells_append_iff.1 h
    have h₁ := (after?_skipBlank_eq_some_iff (by decide)).2 hbrace
    have h₂ := after?_skipFrontMatterMember_eq_some_iff.2 ⟨hasMember, hmember⟩
    have h₃ := (after?_skipBlank_eq_some_iff (by decide)).2 hcolon
    have h₄ : after? "MDXContent".toList (skipBlank t₃) = some t₄ :=
      (after?_skipBlank_eq_some_iff (by decide)).2 hcontent
    have h₅ := (after?_skipBlank_dropOptional_eq_some_iff (by decide) (by decide)
      (by decide)).2 ⟨hasComma, hcomma⟩
    have hend := isEmpty_skipBlank_dropOptional_iff.2 ⟨hasSemicolon, rest, hrest, hblank⟩
    simp only [exportReturn, after?_append, h₁, h₂, h₃, h₄, h₅, hend, guard, if_true,
      Option.bind_eq_bind, Option.bind_some, Option.pure_def]

theorem exists_isExportReturn (s r : Text) (h : exportReturn s = some r) :
    ∃ p, IsExportReturn p ∧ s = p ++ r := by
  obtain ⟨hs, rfl⟩ := exportReturn_eq_some_iff.1 h
  exact ⟨s, hs, (List.append_nil s).symm⟩

theorem advances_exportReturn : Advances exportReturn := by
  intro s r h
  obtain ⟨p, ⟨_, _, _, t, _, rfl, -⟩, hs⟩ := exists_isExportReturn s r h
  exact ⟨_, by simp, hs⟩

end DocPreview.Artifact
