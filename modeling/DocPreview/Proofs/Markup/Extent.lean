import DocPreview.Markup.Inline
import DocPreview.Proofs.Text.Occurrence
import Mathlib.Data.List.TakeWhile

/-!
# How far marks reach

What is read in a text ends at a mark: a label at its closing bracket, a target at its closing
parenthesis, code at a backtick, a reference at its semicolon. So where a tag follows that has none
of these marks, nothing that begins before the tag reaches into it, but for a backslash just before.
Backslashes that come in pairs leave the tag alone.

## Main definitions

* `HasPairedEnd`: the backslashes at the end of a text come in pairs.
* `Passes`: a number of characters that can be passed over.

## Main results

* `mark_suffix_of_resource?`, `mark_suffix_of_label?`: where labels and targets end.
* `passes_address`: addresses end before a tag.
-/

namespace DocPreview.Markup

open Text

variable {s u v w x y l rest label : Text} {c d : Char} {n : Nat}

/-! ### Marks at the end -/

section Marks

/-- What is behind a text that has been read does not depend on what is made of the text. -/
theorem exists_of_map_eq {o : Option (Text × Text)} {f : Text × Text → Text × Text}
    (h : o.map f = some (l, rest)) (hf : ∀ p, (f p).2 = p.2) : ∃ s, o = some (s, rest) := by
  obtain ⟨⟨s, rest'⟩, hs, heq⟩ := Option.map_eq_some_iff.1 h
  obtain rfl : rest' = rest := (hf (s, rest')).symm.trans (congrArg Prod.snd heq)
  exact ⟨s, hs⟩

theorem mark_suffix_of_labelBody? (h : labelBody? s = some (l, rest)) : ']' :: rest <:+ s := by
  fun_induction labelBody? s generalizing l with
  | case1 => cases h
  | case2 r =>
    cases h
    exact List.suffix_refl _
  | case3 => cases h
  | case4 c r hc ih =>
    obtain ⟨_, h⟩ := exists_of_map_eq h fun _ => rfl
    exact (ih h).trans ⟨['\\', c], rfl⟩
  | case5 c r hc ih =>
    obtain ⟨_, h⟩ := exists_of_map_eq h fun _ => rfl
    exact (ih h).trans (List.suffix_cons _ _)
  | case6 c r _ _ _ ih =>
    obtain ⟨_, h⟩ := exists_of_map_eq h fun _ => rfl
    exact (ih h).trans (List.suffix_cons _ _)

theorem mark_suffix_of_label? (h : label? s = some (l, rest)) : ']' :: rest <:+ s := by
  unfold label? at h
  split at h
  · split at h
    · rename_i hbody
      split at h
      · cases h
      · cases h
        exact (mark_suffix_of_labelBody? hbody).trans (List.suffix_cons _ _)
    · cases h
  · cases h

theorem suffix_of_enclosed? (h : enclosed? s = some (l, rest)) : rest <:+ s := by
  fun_induction enclosed? s generalizing l with
  | case1 => cases h
  | case2 r =>
    cases h
    exact List.suffix_cons _ _
  | case3 c r hc ih =>
    obtain ⟨_, h⟩ := exists_of_map_eq h fun _ => rfl
    exact (ih h).trans ⟨['\\', c], rfl⟩
  | case4 c r hc ih =>
    obtain ⟨_, h⟩ := exists_of_map_eq h fun _ => rfl
    exact (ih h).trans (List.suffix_cons _ _)
  | case5 => cases h
  | case6 c r _ _ _ ih =>
    obtain ⟨_, h⟩ := exists_of_map_eq h fun _ => rfl
    exact (ih h).trans (List.suffix_cons _ _)

theorem suffix_of_bare? (h : bare? n s = some (l, rest)) : rest <:+ s := by
  fun_induction bare? n s generalizing l with
  | case1 =>
    cases h
    exact List.suffix_refl _
  | case2 => cases h
  | case3 opened c r hc ih =>
    obtain ⟨_, h⟩ := exists_of_map_eq h fun _ => rfl
    exact (ih h).trans ⟨['\\', c], rfl⟩
  | case4 opened c r hc ih =>
    obtain ⟨_, h⟩ := exists_of_map_eq h fun _ => rfl
    exact (ih h).trans (List.suffix_cons _ _)
  | case5 =>
    cases h
    exact List.suffix_refl _
  | case6 =>
    cases h
    exact List.suffix_refl _
  | case7 => cases h
  | case8 =>
    rename_i ih
    obtain ⟨_, h⟩ := exists_of_map_eq h fun _ => rfl
    exact (ih h).trans (List.suffix_cons _ _)
  | case9 => cases h
  | case10 =>
    rename_i ih
    obtain ⟨_, h⟩ := exists_of_map_eq h fun _ => rfl
    exact (ih h).trans (List.suffix_cons _ _)
  | case11 =>
    rename_i ih
    obtain ⟨_, h⟩ := exists_of_map_eq h fun _ => rfl
    exact (ih h).trans (List.suffix_cons _ _)

theorem suffix_of_target? (h : target? s = some (l, rest)) : rest <:+ s := by
  unfold target? at h
  split at h
  · exact (suffix_of_enclosed? h).trans (List.suffix_cons _ _)
  · split at h
    · cases h
    · exact suffix_of_bare? h
  · cases h

theorem suffix_of_titleBody? {mark : Char} {atBreak : Bool}
    (h : titleBody? mark atBreak s = some (l, rest)) : rest <:+ s := by
  fun_induction titleBody? mark atBreak s generalizing l with
  | case1 => cases h
  | case2 =>
    rename_i ih
    obtain ⟨_, h⟩ := exists_of_map_eq h fun _ => rfl
    exact (ih h).trans ⟨_ :: [_], rfl⟩
  | case3 =>
    rename_i ih
    obtain ⟨_, h⟩ := exists_of_map_eq h fun _ => rfl
    exact (ih h).trans (List.suffix_cons _ _)
  | case4 => cases h
  | case5 =>
    rename_i ih
    obtain ⟨_, h⟩ := exists_of_map_eq h fun _ => rfl
    exact (ih h).trans ⟨_ :: [_], rfl⟩
  | case6 =>
    cases h
    exact List.suffix_cons _ _
  | case7 => cases h
  | case8 =>
    rename_i ih
    obtain ⟨_, h⟩ := exists_of_map_eq h fun _ => rfl
    exact (ih h).trans (List.suffix_cons _ _)
  | case9 =>
    rename_i ih
    obtain ⟨_, h⟩ := exists_of_map_eq h fun _ => rfl
    exact (ih h).trans (List.suffix_cons _ _)

theorem suffix_of_title? (h : title? s = some (l, rest)) : rest <:+ s := by
  unfold title? at h
  split at h
  · exact (suffix_of_titleBody? h).trans (List.suffix_cons _ _)
  · exact (suffix_of_titleBody? h).trans (List.suffix_cons _ _)
  · exact (suffix_of_titleBody? h).trans (List.suffix_cons _ _)
  · cases h

theorem skipSpace_suffix (s : Text) : skipSpace s <:+ s := by
  unfold skipSpace
  refine (List.dropWhile_suffix _).trans ?_
  refine List.IsSuffix.trans ?_ (List.dropWhile_suffix Line.isIndent)
  split
  · rename_i heq
    rw [heq]
    exact ⟨['\r', '\n'], rfl⟩
  · rename_i heq
    split
    · rw [heq]
      exact List.suffix_cons _ _
    · exact List.suffix_refl _
  · exact List.nil_suffix

theorem mark_suffix_of_resource? {t : Target} (h : resource? s = some (t, rest)) :
    ')' :: rest <:+ s := by
  have hmark {r' : Text} (hr' : r' <:+ s) (heq : skipSpace r' = ')' :: rest) : ')' :: rest <:+ s :=
    heq ▸ (skipSpace_suffix r').trans hr'
  unfold resource? at h
  split at h
  · rename_i heq
    cases h
    exact hmark (List.suffix_refl _) heq
  · split at h
    · cases h
    · rename_i url r htarget
      have hr : r <:+ s := (suffix_of_target? htarget).trans (skipSpace_suffix s)
      dsimp only at h
      split at h
      · rename_i heq
        cases h
        exact hmark hr heq
      · split at h
        · cases h
        · split at h
          · cases h
          · rename_i title r' htitle
            have hr' : r' <:+ s := (suffix_of_title? htitle).trans ((skipSpace_suffix r).trans hr)
            split at h
            · rename_i heq
              cases h
              exact hmark hr' heq
            · cases h

theorem mark_suffix_of_numberBefore? {radix most k : Nat} {isDigit : Char → Bool}
    (h : Entity.numberBefore? radix most isDigit s = some (k, rest)) : ';' :: rest <:+ s := by
  unfold Entity.numberBefore? at h
  dsimp only at h
  split at h
  · rename_i heq
    split at h
    · cases h
      exact heq ▸ List.drop_suffix _ _
    · cases h
  · cases h

theorem mark_suffix_of_reference? {cs : Text} (h : Entity.reference? s = some (cs, rest)) :
    ';' :: rest <:+ s := by
  have hnumber {radix most : Nat} {isDigit : Char → Bool} {r : Text}
      (h : (Entity.numberBefore? radix most isDigit r).map
        (fun p => ([Entity.numbered p.1], p.2)) = some (cs, rest)) : ';' :: rest <:+ r := by
    obtain ⟨⟨k, rest'⟩, hk, heq⟩ := Option.map_eq_some_iff.1 h
    cases heq
    exact mark_suffix_of_numberBefore? hk
  unfold Entity.reference? at h
  dsimp only at h
  split at h
  · exact (hnumber h).trans ⟨['#', 'x'], rfl⟩
  · exact (hnumber h).trans ⟨['#', 'X'], rfl⟩
  · exact (hnumber h).trans (List.suffix_cons _ _)
  · split at h
    · rename_i heq
      split at h
      · obtain ⟨_, _, heq'⟩ := Option.map_eq_some_iff.1 h
        cases heq'
        exact heq ▸ List.drop_suffix _ _
      · cases h
    · cases h

end Marks

/-! ### Backslashes at the end -/

/-- The backslashes at the end of a text come in pairs. -/
def HasPairedEnd (s : Text) : Prop := (s.reverse.takeWhile (· = '\\')).length % 2 = 0

instance (s : Text) : Decidable (HasPairedEnd s) := inferInstanceAs (Decidable (_ = _))

theorem hasPairedEnd_nil : HasPairedEnd [] := rfl

theorem takeWhile_backslash_append (u v : Text) :
    (u ++ v).reverse.takeWhile (· = '\\') = if v.all (· = '\\') then
      v.reverse ++ u.reverse.takeWhile (· = '\\') else v.reverse.takeWhile (· = '\\') := by
  rw [List.reverse_append, List.takeWhile_append]
  split_ifs with hlength hall hall
  · rfl
  · refine absurd (List.all_reverse ▸ List.all_eq_true.2 fun c hc => ?_) hall
    rw [← (List.takeWhile_prefix _).eq_of_length hlength] at hc
    exact List.mem_takeWhile_imp (p := fun d => decide (d = '\\')) hc
  · refine absurd ?_ hlength
    rw [List.takeWhile_eq_self_iff.2 fun c hc =>
      List.all_eq_true.1 hall c (List.mem_reverse.1 hc)]
  · rfl

/-- Behind characters that do not end in a backslash, or in front of one that is none, the
backslashes at the end still come in pairs. -/
theorem HasPairedEnd.of_append (h : HasPairedEnd (u ++ v))
    (hedge : u.getLast? ≠ some '\\' ∨ v.head? ≠ some '\\') : HasPairedEnd v := by
  rw [HasPairedEnd, takeWhile_backslash_append] at h
  split_ifs at h with hall
  · cases v with
    | nil => rfl
    | cons c v =>
      have hc : c = '\\' := by simpa using List.all_eq_true.1 hall c List.mem_cons_self
      have hu : u.reverse.takeWhile (· = '\\') = [] := by
        rw [List.takeWhile_eq_nil_iff]
        intro hlength hlast
        refine hedge.elim (fun h => h ?_) fun h => h (by rw [hc]; rfl)
        rw [List.getLast?_eq_head?_reverse, List.head?_eq_getElem?,
          List.getElem?_eq_getElem hlength]
        exact congrArg some (by simpa using hlast)
      rw [hu, List.append_nil] at h
      rwa [HasPairedEnd, List.takeWhile_eq_self_iff.2 fun d hd =>
        List.all_eq_true.1 hall d (List.mem_reverse.1 hd)]
  · exact h

theorem HasPairedEnd.of_pair (h : HasPairedEnd ('\\' :: '\\' :: v)) : HasPairedEnd v := by
  have hsplit : '\\' :: '\\' :: v = ['\\', '\\'] ++ v := rfl
  rw [HasPairedEnd, hsplit, takeWhile_backslash_append] at h
  split_ifs at h with hall
  · rw [HasPairedEnd, List.takeWhile_eq_self_iff.2 fun d hd =>
      List.all_eq_true.1 hall d (List.mem_reverse.1 hd)]
    rw [List.length_append] at h
    exact (Nat.add_mod_right ..).symm.trans h
  · exact h

/-- Some of the first characters of a text, behind which the backslashes at the end come in
pairs. -/
structure Passes (x : Text) (n : Nat) : Prop where
  pos : n ≠ 0
  le : n ≤ x.length
  paired : HasPairedEnd (x.drop n)

theorem passes_of_append (h : HasPairedEnd (u ++ v)) (hu : u ≠ [])
    (hedge : u.getLast? ≠ some '\\' ∨ v.head? ≠ some '\\') : Passes (u ++ v) u.length where
  pos := List.length_eq_zero_iff.not.2 hu
  le := by simp
  paired := by
    rw [List.drop_left]
    exact h.of_append hedge

/-- A mark that does not stand in what follows a text is passed over within the text. -/
theorem passes_of_mark (h : HasPairedEnd x) (hd : d ∉ w) (hslash : d ≠ '\\')
    (hs : d :: rest <:+ x ++ w) : Passes x ((x ++ w).length - rest.length) := by
  obtain ⟨p, hp⟩ := hs
  obtain ⟨v, rfl⟩ : ∃ v, x = (p ++ [d]) ++ v := by
    rw [List.append_cons] at hp
    rcases List.append_eq_append_iff.1 hp with ⟨a, ha, hrest⟩ | ⟨a, ha, hw⟩
    · exact ⟨a, ha⟩
    · cases a using List.reverseRecOn with
      | nil => exact ⟨[], by rw [List.append_nil, ha, List.append_nil]⟩
      | append_singleton a e =>
        rw [← List.append_assoc] at ha
        obtain rfl : d = e := by simpa using (List.append_inj' ha rfl).2
        exact absurd (hw ▸ by simp) hd
  have hlength : ((p ++ [d]) ++ v ++ w).length - rest.length = (p ++ [d]).length := by
    rw [← hp]
    simp
    omega
  rw [hlength]
  exact passes_of_append h (by simp) (.inl (by simpa using hslash))

/-! ### Addresses -/

section Addresses

open Autolink

theorem isTrail_lt (w : Text) : isTrail .plain ('<' :: w) = true := rfl

/-- A domain ends before a tag, and it is not empty. -/
theorem le_of_domainLength? {last before seen : Bool}
    (h : domainLength? last before seen (x ++ '<' :: w) = some n) :
    n ≤ x.length ∧ (seen = false → n ≠ 0) := by
  have hends {l b s : Bool} {m : Nat}
      (h : (if l || b || !s then none else some 0) = some m) (k : Nat) :
      m ≤ k ∧ (s = false → m ≠ 0) := by
    split_ifs at h with hnone
    · cases h
      simp only [Bool.or_eq_true, not_or] at hnone
      exact ⟨k.zero_le, fun hs => absurd (by simp [hs]) hnone.2⟩
  induction x generalizing last before seen n with
  | nil =>
    have hpunctuation : Unicode.isPunctuation '<' = true := by decide +kernel
    rw [List.nil_append, domainLength?] at h
    simp only [hpunctuation, Bool.or_true, ↓reduceIte] at h
    exact hends h _
  | cons c x ih =>
    have hmore {l b s : Bool} (h : (domainLength? l b s (x ++ '<' :: w)).map (· + 1) = some n) :
        n ≤ x.length + 1 ∧ (seen = false → n ≠ 0) := by
      obtain ⟨k, hk, rfl⟩ := Option.map_eq_some_iff.1 h
      exact ⟨Nat.succ_le_succ (ih hk).1, fun _ => Nat.succ_ne_zero k⟩
    rw [List.cons_append, domainLength?] at h
    generalize hend : (if last || before || !seen then none else some 0) = ends at h
    split_ifs at h
    all_goals first
      | exact hends (hend.trans h) _
      | exact hmore h

/-- A path ends before a tag, and no backslash is left behind it. -/
theorem le_pathLength (opened closed : Nat) (x w : Text) :
    pathLength opened closed (x ++ '<' :: w) ≤ x.length ∧
      (x.drop (pathLength opened closed (x ++ '<' :: w))).head? ≠ some '\\' := by
  induction x generalizing opened closed with
  | nil => exact ⟨le_of_eq rfl, by simp⟩
  | cons c x ih =>
    have hstop (hc : c ≠ '\\') :
        0 ≤ (c :: x).length ∧ ((c :: x).drop 0).head? ≠ some '\\' := by simpa using hc
    have hmore (o k : Nat) : pathLength o k (x ++ '<' :: w) + 1 ≤ (c :: x).length ∧
        ((c :: x).drop (pathLength o k (x ++ '<' :: w) + 1)).head? ≠ some '\\' :=
      ⟨Nat.succ_le_succ (ih o k).1, (ih o k).2⟩
    rw [List.cons_append, pathLength]
    split_ifs with hopen hspecial htrail hclose hblank
    · exact hmore _ _
    · refine hstop ?_
      rintro rfl
      simp at hspecial
    · exact hmore _ _
    · exact hmore _ _
    · refine hstop ?_
      rintro rfl
      exact absurd hblank (by decide)
    · exact hmore _ _

/-- An address ends before a tag, and no backslash is left behind it. -/
theorem le_of_addressLength? (h : addressLength? (x ++ '<' :: w) = some n) :
    n ≠ 0 ∧ n ≤ x.length ∧ (x.drop n).head? ≠ some '\\' := by
  simp only [addressLength?, Option.bind_eq_bind, Option.bind_eq_some_iff, Option.pure_def,
    Option.some.injEq] at h
  obtain ⟨k, hk, rfl⟩ := h
  obtain ⟨hle, hpos⟩ := le_of_domainLength? hk
  obtain ⟨hpath, hhead⟩ := le_pathLength 0 0 (x.drop k) w
  rw [List.drop_append_of_le_length hle]
  rw [List.length_drop] at hpath
  rw [List.drop_drop] at hhead
  exact ⟨fun hzero => hpos rfl (Nat.eq_zero_of_add_eq_zero_right hzero), by omega, hhead⟩

theorem passes_of_le (h : HasPairedEnd x) (hpos : n ≠ 0) (hle : n ≤ x.length)
    (hhead : (x.drop n).head? ≠ some '\\') : Passes x n where
  pos := hpos
  le := hle
  paired := by
    rw [← List.take_append_drop n x] at h
    exact h.of_append (.inr hhead)

/-- An address that begins before a tag ends before it. -/
theorem passes_of_wwwLink? {previous : Option Char} (h : HasPairedEnd x)
    (hn : wwwLink? previous (x ++ '<' :: w) = some n) : Passes x n := by
  have hn : addressLength? (x ++ '<' :: w) = some n := by
    unfold wwwLink? at hn
    simp only [Option.bind_eq_bind] at hn
    split_ifs at hn
    · cases hn
    · obtain ⟨r, -, hn⟩ := Option.bind_eq_some_iff.1 hn
      split_ifs at hn
      · cases hn
      · exact hn
  obtain ⟨hpos, hle, hhead⟩ := le_of_addressLength? hn
  exact passes_of_le h hpos hle hhead

/-- What is written before the domain of an address has no angle bracket. -/
theorem le_of_protocol {t : Text} {k : Nat} (ht : '<' ∉ t)
    (h : ((x ++ '<' :: w).take k).map Char.toLower = t ++ rest) : t.length ≤ x.length := by
  by_contra hlt
  have hmem : '<' ∈ t := by
    have hindex : (((x ++ '<' :: w).take k).map Char.toLower)[x.length]? =
        some t[x.length] := by
      rw [h, List.getElem?_append_left (by omega), List.getElem?_eq_getElem (by omega)]
    rw [List.getElem?_map, Option.map_eq_some_iff] at hindex
    obtain ⟨c, hc, hlower⟩ := hindex
    rw [List.getElem?_take] at hc
    split_ifs at hc
    rw [List.getElem?_append_right le_rfl, Nat.sub_self] at hc
    cases hc
    have hsame : '<' = t[x.length] := .trans (by decide) hlower
    rw [hsame]
    exact List.getElem_mem _
  exact ht hmem

theorem passes_of_protocolLink? {previous : Option Char} (h : HasPairedEnd x)
    (hn : protocolLink? previous (x ++ '<' :: w) = some n) : Passes x n := by
  obtain ⟨t, k, r, ht, hlower, hn⟩ : ∃ t k r, '<' ∉ t ∧
      ((x ++ '<' :: w).take 8).map Char.toLower = t ++ r ∧
      addressLength? ((x ++ '<' :: w).drop t.length) = some k ∧ n = t.length + k := by
    unfold protocolLink? at hn
    simp only [Option.bind_eq_bind] at hn
    by_cases hletter : previous.any isLetter
    · rw [if_pos hletter] at hn
      cases hn
    · rw [if_neg hletter] at hn
      split at hn
      · rename_i hhttp
        obtain ⟨r, hr⟩ := Option.isSome_iff_exists.1 hhttp
        rw [Option.bind_some] at hn
        obtain ⟨k, hk, heq⟩ := Option.bind_eq_some_iff.1 hn
        exact ⟨"http://".toList, k, r, by decide, eq_append_of_after? hr, hk,
          (Option.some.inj heq).symm⟩
      · split at hn
        · rename_i hhttps
          obtain ⟨r, hr⟩ := Option.isSome_iff_exists.1 hhttps
          rw [Option.bind_some] at hn
          obtain ⟨k, hk, heq⟩ := Option.bind_eq_some_iff.1 hn
          exact ⟨"https://".toList, k, r, by decide, eq_append_of_after? hr, hk,
            (Option.some.inj heq).symm⟩
        · cases hn
  have hle := le_of_protocol ht hlower
  obtain ⟨hk, rfl⟩ := hn
  rw [List.drop_append_of_le_length hle] at hk
  obtain ⟨hpos, hrest, hhead⟩ := le_of_addressLength? hk
  rw [List.length_drop] at hrest
  rw [List.drop_drop] at hhead
  exact passes_of_le h (by omega) (by omega) hhead

end Addresses

/-! ### Code -/

/-- The code that backticks start ends in a backtick. -/
theorem exists_of_codeBody? {here k : Nat} (hn : n ≠ 0)
    (h : Inline.codeBody? n here s = some (l, k)) :
    ∃ u v, s = u ++ v ∧ u.length = k ∧ ((u = [] ∧ here = n) ∨ u.getLast? = some '\x60') := by
  fun_induction Inline.codeBody? n here s generalizing l k with
  | case1 =>
    cases h
    exact ⟨[], [], rfl, rfl, .inl ⟨rfl, rfl⟩⟩
  | case2 => cases h
  | case3 here r ih =>
    obtain ⟨⟨body, j⟩, hj, heq⟩ := Option.map_eq_some_iff.1 h
    cases heq
    obtain ⟨u, v, rfl, rfl, hu⟩ := ih hj
    refine ⟨'\x60' :: u, v, rfl, rfl, .inr ?_⟩
    rcases hu with ⟨rfl, -⟩ | hu
    · rfl
    · rw [List.getLast?_cons, hu]
      rfl
  | case4 =>
    cases h
    exact ⟨[], _, rfl, rfl, .inl ⟨rfl, rfl⟩⟩
  | case5 here c r hc hhere ih =>
    obtain ⟨⟨body, j⟩, hj, heq⟩ := Option.map_eq_some_iff.1 h
    cases heq
    obtain ⟨u, v, rfl, rfl, hu⟩ := ih hj
    refine ⟨c :: u, v, rfl, rfl, .inr ?_⟩
    rcases hu with ⟨-, hzero⟩ | hu
    · exact absurd hzero.symm hn
    · rw [List.getLast?_cons, hu]
      rfl

end DocPreview.Markup
