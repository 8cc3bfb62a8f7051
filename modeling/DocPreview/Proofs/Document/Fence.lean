import DocPreview.Document.Fence
import DocPreview.Proofs.Text.Line

/-!
# Lines that open and close fences

The readers of fence lines are characterized by the form of the lines they accept. A line opens a
fence if it begins, after white space, with three equal markers, and it closes a fence if it holds
nothing but a long enough run of the marker between white space. White space at the end of a line
does not matter to either.

## Main definitions

* `OpensFence`, `ClosesFence`: the lines that open a fence, and those that close a given one.

## Main results

* `opening?_eq_some_iff`: the parts of an opening line.
* `isSome_opening?_iff`: the lines that open a fence.
* `closedBy_iff`, `closedBy_append_of_blank`: the lines that close a fence.
-/

namespace DocPreview.Document

open Text

/-- A line that begins, after white space, with three equal markers. -/
def OpensFence (l : Text) : Prop :=
  ∃ a m r, (∀ c ∈ a, isBlank c) ∧ isMarker m ∧ l = a ++ m :: m :: m :: r

/-- A line that holds, between white space, nothing but a run of at least `n` markers `m`. -/
def ClosesFence (m : Char) (n : Nat) (l : Text) : Prop :=
  ∃ a k w, (∀ c ∈ a, isBlank c) ∧ n ≤ k ∧ (∀ c ∈ w, isBlank c) ∧ l = a ++ (List.replicate k m ++ w)

/-! ### Markers -/

theorem isBlank_eq_false_of_isMarker {m : Char} (h : isMarker m) : isBlank m = false := by
  obtain rfl | rfl : m = '\x60' ∨ m = '~' := by simpa [isMarker] using h
  all_goals decide

theorem isLineEnd_eq_false_of_isMarker {m : Char} (h : isMarker m) : isLineEnd m = false := by
  obtain rfl | rfl : m = '\x60' ∨ m = '~' := by simpa [isMarker] using h
  all_goals decide

theorem isBlank_of_isLineEnd {c : Char} (h : isLineEnd c) : isBlank c := by
  obtain rfl | rfl : c = '\n' ∨ c = '\r' := by simpa [isLineEnd] using h
  all_goals decide

variable {m : Char} {n : Nat} {r : Text}

theorem takeWhile_replicate_append (h : r.head? ≠ some m) :
    (List.replicate n m ++ r).takeWhile (· = m) = List.replicate n m := by
  rw [List.takeWhile_append_of_pos (by simp)]
  cases r with
  | nil => simp
  | cons c r => simpa [List.takeWhile_cons] using h

theorem dropWhile_replicate_append (h : r.head? ≠ some m) :
    (List.replicate n m ++ r).dropWhile (· = m) = r := by
  rw [List.dropWhile_append_of_pos (by simp)]
  cases r with
  | nil => rfl
  | cons c r => rw [List.dropWhile_cons_of_neg]; simpa using h

/-- A text is a run of a character and what follows the run. -/
theorem exists_run (m : Char) (s : Text) : ∃ r, r.head? ≠ some m ∧
    s.dropWhile (· = m) = r ∧ s = List.replicate (runLength m s) m ++ r := by
  have hrun : s.takeWhile (· = m) = List.replicate (runLength m s) m :=
    List.eq_replicate_iff.2 ⟨rfl, fun c hc => by simpa using List.mem_takeWhile_imp hc⟩
  refine ⟨s.dropWhile (· = m), ?_, rfl, ?_⟩
  · intro h
    have hne := List.head?_dropWhile_not (· = m) s
    rw [h] at hne
    simp at hne
  · rw [← hrun, List.takeWhile_append_dropWhile]

/-! ### Opening lines -/

theorem opening?_eq_some_iff {l : Text} {o : Opening} : opening? l = some o ↔
    isMarker o.marker ∧ 3 ≤ o.size ∧ (∀ c ∈ o.indent, isBlank c) ∧
      ∃ r, r.head? ≠ some o.marker ∧ o.info = trim r ∧
        dropEndWhile isLineEnd l = o.indent ++ (List.replicate o.size o.marker ++ r) := by
  constructor
  · intro h
    rw [opening?] at h
    generalize dropEndWhile isLineEnd l = content at h ⊢
    simp only at h
    split at h
    · cases h
    · rename_i m rest hrest
      split_ifs at h with hm
      cases h
      rw [Bool.and_eq_true, decide_eq_true_eq] at hm
      obtain ⟨r, hhead, hdrop, hrun⟩ := exists_run m (m :: rest)
      refine ⟨hm.1, hm.2, fun c hc => List.mem_takeWhile_imp hc, r, hhead, by simp only [hdrop], ?_⟩
      simp only
      rw [← hrun, ← hrest, List.takeWhile_append_dropWhile]
  · obtain ⟨indent, m, n, info⟩ := o
    rintro ⟨hm, hn, hindent, r, hhead, hinfo, hl⟩
    simp only at hm hn hindent hhead hinfo hl
    obtain ⟨k, rfl⟩ : ∃ k, n = k + 1 := ⟨n - 1, by omega⟩
    have hblank : isBlank m = false := isBlank_eq_false_of_isMarker hm
    have htake : (List.replicate (k + 1) m ++ r).takeWhile isBlank = [] := by
      rw [List.replicate_succ, List.cons_append, List.takeWhile_cons_of_neg (by simp [hblank])]
    have hdrop : (List.replicate (k + 1) m ++ r).dropWhile isBlank =
        m :: (List.replicate k m ++ r) := by
      rw [List.replicate_succ, List.cons_append, List.dropWhile_cons_of_neg (by simp [hblank])]
    have hrun : runLength m (m :: (List.replicate k m ++ r)) = k + 1 := by
      rw [runLength, ← List.cons_append, ← List.replicate_succ, takeWhile_replicate_append hhead,
        List.length_replicate]
    have hrest : (m :: (List.replicate k m ++ r)).dropWhile (· = m) = r := by
      rw [← List.cons_append, ← List.replicate_succ, dropWhile_replicate_append hhead]
    rw [opening?, hl]
    simp only [List.takeWhile_append_of_pos hindent, List.dropWhile_append_of_pos hindent, htake,
      hdrop, hrun, hrest, hm, hn, hinfo, List.append_nil, decide_true, Bool.and_self, ↓reduceIte]

/-- What ends a line does not matter to whether it opens a fence. -/
theorem opening?_congr {l l' : Text}
    (h : dropEndWhile isLineEnd l = dropEndWhile isLineEnd l') : opening? l = opening? l' := by
  rw [opening?, opening?, h]

theorem dropEndWhile_marker_cons {m : Char} (hm : isMarker m) (s : Text) :
    dropEndWhile isLineEnd (m :: s) = m :: dropEndWhile isLineEnd s := by
  rw [dropEndWhile]
  cases dropEndWhile isLineEnd s <;> simp [isLineEnd_eq_false_of_isMarker hm]

theorem isSome_opening?_iff {l : Text} : (opening? l).isSome ↔ OpensFence l := by
  constructor
  · intro h
    obtain ⟨o, ho⟩ := Option.isSome_iff_exists.1 h
    obtain ⟨hm, hn, hindent, r, -, -, hl⟩ := opening?_eq_some_iff.1 ho
    obtain ⟨k, hk⟩ : ∃ k, o.size = k + 3 := ⟨o.size - 3, by omega⟩
    obtain ⟨b, hb, -⟩ := exists_of_dropEndWhile isLineEnd l
    refine ⟨o.indent, o.marker, List.replicate k o.marker ++ (r ++ b), hindent, hm, ?_⟩
    rw [hb, hl, hk]
    simp [List.replicate_succ]
  · rintro ⟨a, m, r, ha, hm, rfl⟩
    have hmarkers : dropEndWhile isLineEnd (m :: m :: m :: r) =
        m :: m :: m :: dropEndWhile isLineEnd r := by
      simp only [dropEndWhile_marker_cons hm]
    obtain ⟨r', hhead, -, hrun⟩ := exists_run m (m :: m :: m :: dropEndWhile isLineEnd r)
    have hl : dropEndWhile isLineEnd (a ++ m :: m :: m :: r) =
        a ++ (List.replicate (runLength m (m :: m :: m :: dropEndWhile isLineEnd r)) m ++ r') := by
      rw [← hrun, ← hmarkers]
      exact dropEndWhile_append_of_ne_nil (by simp [hmarkers])
    have ho : opening? (a ++ m :: m :: m :: r) =
        some ⟨a, m, runLength m (m :: m :: m :: dropEndWhile isLineEnd r), trim r'⟩ :=
      opening?_eq_some_iff.2 ⟨hm, by simp [runLength], ha, r', hhead, rfl, hl⟩
    rw [ho]
    rfl

theorem opening?_eq_none_iff {l : Text} : opening? l = none ↔ ¬ OpensFence l := by
  rw [← isSome_opening?_iff, Option.not_isSome_iff_eq_none]

/-- A blank line opens no fence. -/
theorem not_opensFence_of_blank {l : Text} (h : ∀ c ∈ l, isBlank c) : ¬ OpensFence l := by
  rintro ⟨a, m, r, -, hm, rfl⟩
  have := h m (by simp)
  rw [isBlank_eq_false_of_isMarker hm] at this
  cases this

/-- A line with something else than a marker behind white space opens no fence. -/
theorem not_opensFence_append_cons {a : Text} (ha : ∀ c ∈ a, isBlank c) {x : Char}
    (hblank : isBlank x = false) (hm : isMarker x = false) (r : Text) :
    ¬ OpensFence (a ++ x :: r) := by
  rintro ⟨a', m, r', ha', hm', heq⟩
  rcases List.append_eq_append_iff.1 heq with ⟨t, rfl, ht⟩ | ⟨t, rfl, ht⟩
  · cases t with
    | nil =>
      obtain ⟨rfl, -⟩ := List.cons.inj ht
      rw [hm] at hm'
      cases hm'
    | cons y t =>
      obtain ⟨rfl, -⟩ := List.cons.inj ht
      have := ha' x (by simp)
      rw [hblank] at this
      cases this
  · cases t with
    | nil =>
      obtain ⟨rfl, -⟩ := List.cons.inj ht
      rw [hm] at hm'
      cases hm'
    | cons y t =>
      obtain ⟨rfl, -⟩ := List.cons.inj ht
      have := ha m (by simp)
      rw [isBlank_eq_false_of_isMarker hm'] at this
      cases this

/-- The indentation of an opening line is blank and in one line. -/
theorem blank_of_mem_indent {l : Text} (hl : IsLine l) {o : Opening} (h : opening? l = some o)
    {c : Char} (hc : c ∈ o.indent) : isBlank c ∧ c ≠ '\n' := by
  obtain ⟨-, -, hindent, r, -, -, hcontent⟩ := opening?_eq_some_iff.1 h
  refine ⟨hindent c hc, ?_⟩
  rintro rfl
  exact hl.lf_notMem_dropEndWhile (hcontent ▸ List.mem_append_left _ hc)

/-! ### Closing lines -/

/-- What an opening line says of its fence. -/
theorem marker_and_size_of_opening? {l : Text} {o : Opening} (h : opening? l = some o) :
    isMarker o.marker ∧ 0 < o.size := by
  obtain ⟨hm, hn, -⟩ := opening?_eq_some_iff.1 h
  exact ⟨hm, by omega⟩

theorem closedBy_iff {o : Opening} (hm : isMarker o.marker) (hn : 0 < o.size) {l : Text} :
    o.closedBy l = true ↔ ClosesFence o.marker o.size l := by
  rw [Opening.closedBy, Bool.and_eq_true, decide_eq_true_eq, List.all_eq_true]
  constructor
  · rintro ⟨hsize, hblank⟩
    obtain ⟨w, -, hdrop, hrun⟩ := exists_run o.marker (trimStart l)
    refine ⟨l.takeWhile isBlank, _, w, fun c hc => List.mem_takeWhile_imp hc, hsize,
      fun c hc => hblank c (hdrop ▸ hc), ?_⟩
    rw [← hrun, trimStart, List.takeWhile_append_dropWhile]
  · rintro ⟨a, k, w, ha, hk, hw, rfl⟩
    obtain ⟨j, rfl⟩ : ∃ j, k = j + 1 := ⟨k - 1, by omega⟩
    have hblank : isBlank o.marker = false := isBlank_eq_false_of_isMarker hm
    have hhead : w.head? ≠ some o.marker := by
      intro h
      have := hw _ (List.mem_of_head? h)
      rw [hblank] at this
      cases this
    have htrim : trimStart (a ++ (List.replicate (j + 1) o.marker ++ w)) =
        List.replicate (j + 1) o.marker ++ w := by
      rw [trimStart, List.dropWhile_append_of_pos ha, List.replicate_succ, List.cons_append,
        List.dropWhile_cons_of_neg (by simp [hblank])]
    rw [htrim, runLength, takeWhile_replicate_append hhead, dropWhile_replicate_append hhead,
      List.length_replicate]
    exact ⟨hk, hw⟩

/-- White space at the end of a line does not matter to whether it closes a fence. -/
theorem closesFence_append_iff {m : Char} (hm : isMarker m) {n : Nat} (hn : 0 < n) {l w : Text}
    (hw : ∀ c ∈ w, isBlank c) : ClosesFence m n (l ++ w) ↔ ClosesFence m n l := by
  constructor
  · rintro ⟨a, k, v, ha, hk, hv, h⟩
    rw [← List.append_assoc] at h
    rcases List.append_eq_append_iff.1 h with ⟨t, ht, rfl⟩ | ⟨t, rfl, rfl⟩
    · have ht_nil : t = [] := by
        by_contra hne
        have hlast : t.getLast? = some m := by
          rw [← List.getLast?_append_of_ne_nil l hne, ← ht, List.getLast?_append,
            List.getLast?_replicate, if_neg (by omega)]
          rfl
        have hblank := hw m (List.mem_append_left v (List.mem_of_getLast? hlast))
        rw [isBlank_eq_false_of_isMarker hm] at hblank
        cases hblank
      rw [ht_nil, List.append_nil] at ht
      exact ⟨a, k, [], ha, hk, by simp, by rw [List.append_nil, ht]⟩
    · refine ⟨a, k, t, ha, hk, fun c hc => hv c (List.mem_append_left _ hc), ?_⟩
      rw [List.append_assoc]
  · rintro ⟨a, k, v, ha, hk, hv, rfl⟩
    refine ⟨a, k, v ++ w, ha, hk, ?_, by simp only [List.append_assoc]⟩
    intro c hc
    exact (List.mem_append.1 hc).elim (hv c) (hw c)

/-- White space at the start of a line does not matter to whether it closes a fence. -/
theorem closedBy_blank_append {a : Text} (ha : ∀ c ∈ a, isBlank c) (o : Opening) (l : Text) :
    o.closedBy (a ++ l) = o.closedBy l := by
  rw [Opening.closedBy, Opening.closedBy, trimStart, trimStart, List.dropWhile_append_of_pos ha]

theorem closedBy_nil {o : Opening} (hn : 0 < o.size) : o.closedBy [] = false := by
  have hsize : ¬ o.size ≤ 0 := by omega
  simp [Opening.closedBy, trimStart, runLength, hsize]

theorem closedBy_append_of_blank {o : Opening} (hm : isMarker o.marker) (hn : 0 < o.size)
    {l w : Text} (hw : ∀ c ∈ w, isBlank c) : o.closedBy (l ++ w) = o.closedBy l := by
  rw [Bool.eq_iff_iff, closedBy_iff hm hn, closedBy_iff hm hn, closesFence_append_iff hm hn hw]

end DocPreview.Document
