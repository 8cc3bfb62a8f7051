import DocPreview.Markup.Block
import DocPreview.Proofs.Document.Fence
import DocPreview.Proofs.Markup.Line

/-!
# Fence lines of Markdown

Markdown has rules of its own for the lines that open and close a block of code. They are compared
with the ones by which the fences of a document are found: Markdown takes only blanks and tabs for
indentation, and no backtick may follow a fence of backticks on its line.

## Main results

* `exists_opening?_iff`: the fences that also open a block of code in Markdown.
* `isClosedBy_iff`: the lines that also close it.
-/

namespace DocPreview.Markup

open Text Document

variable {l : Line} {f : CodeFence} {o : Opening} {m : Char} {n : Nat}

/-! ### Lines -/

theorem isBlank_of_isIndent {c : Char} (h : Line.isIndent c) : isBlank c := by
  obtain rfl | rfl : c = ' ' ∨ c = '\t' := by simpa [Line.isIndent] using h
  all_goals decide

theorem isIndent_eq_false_of_isMarker {c : Char} (h : isMarker c) : Line.isIndent c = false := by
  obtain rfl | rfl : c = '\x60' ∨ c = '~' := by simpa [isMarker] using h
  all_goals decide

theorem text_trimmed (l : Line) : l.trimmed.text = l.text.dropWhile Line.isIndent := by
  have hdrop : (l.text.takeWhile Line.isIndent ++ l.text.dropWhile Line.isIndent).drop
      (l.text.takeWhile Line.isIndent).length = l.text.dropWhile Line.isIndent := List.drop_left ..
  rwa [List.takeWhile_append_dropWhile] at hdrop

theorem Line.IsWhole.dropEndWhile_raw (h : l.IsWhole) : dropEndWhile isLineEnd l.raw = l.text := by
  rw [Line.raw, dropEndWhile_append_of_pos h.ending, dropEndWhile_eq_self_iff]
  exact fun c hc => h.text c (List.mem_of_getLast? hc)

/-! ### Opening lines -/

theorem mem_dropWhile_iff {p : Char → Bool} {c : Char} (hc : p c = false) {s : Text} :
    c ∈ s.dropWhile p ↔ c ∈ s := by
  conv_rhs => rw [← List.takeWhile_append_dropWhile (p := p) (l := s), List.mem_append]
  refine ⟨Or.inr, fun h => h.resolve_left fun hmem => ?_⟩
  exact absurd (List.mem_takeWhile_imp hmem) (by simp [hc])

theorem mem_dropEndWhile_iff {p : Char → Bool} {c : Char} (hc : p c = false) {s : Text} :
    c ∈ dropEndWhile p s ↔ c ∈ s := by
  obtain ⟨b, hb, hp⟩ := exists_of_dropEndWhile p s
  conv_rhs => rw [hb, List.mem_append]
  exact ⟨Or.inl, fun h => h.resolve_right fun hmem => absurd (hp c hmem) (by simp [hc])⟩

theorem mem_trim_iff {c : Char} (hc : isBlank c = false) {s : Text} : c ∈ trim s ↔ c ∈ s := by
  rw [trim, trimEnd, mem_dropEndWhile_iff hc, trimStart, mem_dropWhile_iff hc]

/-- A line that is a fence starts with a run of markers behind its indentation. -/
theorem mark_and_size_of_opening? (h : CodeFence.opening? l = some f) :
    isMarker f.mark ∧ 3 ≤ f.size ∧ f.size = runLength f.mark (l.text.dropWhile Line.isIndent) := by
  simp only [CodeFence.opening?, text_trimmed] at h
  generalize l.text.dropWhile Line.isIndent = s at h ⊢
  cases s with
  | nil => cases h
  | cons c rest =>
    dsimp only at h
    split at h
    · rename_i hopens
      cases h
      simp only [Bool.and_eq_true, decide_eq_true_eq] at hopens
      exact ⟨by simpa [isMarker] using hopens.1.1, hopens.1.2, rfl⟩
    · cases h

/-- The fence that a line with a run of markers is. -/
theorem map_opening?_of_eq {a r : Text} (ha : ∀ c ∈ a, Line.isIndent c) (hm : isMarker m)
    (hn : 3 ≤ n) (hr : r.head? ≠ some m) (hl : l.text = a ++ (List.replicate n m ++ r)) :
    (CodeFence.opening? l).map (fun f => (f.mark, f.size)) =
      if m = '\x60' ∧ '\x60' ∈ r then none else some (m, n) := by
  obtain ⟨k, rfl⟩ : ∃ k, n = k + 1 := ⟨n - 1, by omega⟩
  have hdrop : l.text.dropWhile Line.isIndent = m :: (List.replicate k m ++ r) := by
    rw [hl, List.dropWhile_append_of_pos ha, List.replicate_succ, List.cons_append,
      List.dropWhile_cons_of_neg (by simp [isIndent_eq_false_of_isMarker hm])]
  have hrun : ((m :: (List.replicate k m ++ r)).takeWhile (· = m)).length = k + 1 := by
    rw [← List.cons_append, ← List.replicate_succ, takeWhile_replicate_append hr,
      List.length_replicate]
  have hrest : (m :: (List.replicate k m ++ r)).drop (k + 1) = r := by
    rw [← List.cons_append, ← List.replicate_succ]
    exact List.drop_left' (List.length_replicate ..)
  have hmem : '\x60' ∈ CodeFence.opening?.trimIndent r ↔ '\x60' ∈ r := by
    rw [CodeFence.opening?.trimIndent, mem_dropEndWhile_iff (by decide),
      mem_dropWhile_iff (by decide)]
  have hmark : (m = '\x60' || m = '~') = true := by simpa [isMarker] using hm
  simp only [CodeFence.opening?, text_trimmed, hdrop, hrun, hrest, hmark, hn, hmem,
    List.contains_eq_mem]
  by_cases htick : m = '\x60' ∧ '\x60' ∈ r <;> simp [htick]

/-- A fence opens a block of code in Markdown if only blanks and tabs stand before it, and if no
backtick follows backticks. -/
theorem exists_opening?_iff (hl : l.IsWhole) :
    (∃ f, CodeFence.opening? l = some f ∧ f.mark = m ∧ f.size = n) ↔
      ∃ o, Document.opening? l.raw = some o ∧ o.marker = m ∧ o.size = n ∧
        (∀ c ∈ o.indent, Line.isIndent c) ∧ (m = '\x60' → '\x60' ∉ o.info) := by
  constructor
  · rintro ⟨f, hf, rfl, rfl⟩
    have hindent : ∀ c ∈ l.text.takeWhile Line.isIndent, Line.isIndent c :=
      fun c hc => List.mem_takeWhile_imp hc
    obtain ⟨r, hr, -, hrun⟩ := exists_run f.mark (l.text.dropWhile Line.isIndent)
    have htext := (List.takeWhile_append_dropWhile (p := Line.isIndent) (l := l.text)).symm
    rw [hrun] at htext
    obtain ⟨hm, hn, hsize⟩ := mark_and_size_of_opening? hf
    rw [← hsize] at htext
    have hmap := map_opening?_of_eq hindent hm hn hr htext
    rw [hf, Option.map_some] at hmap
    split_ifs at hmap with htick
    refine ⟨⟨_, f.mark, f.size, trim r⟩, opening?_eq_some_iff.2
      ⟨hm, hn, fun c hc => isBlank_of_isIndent (hindent c hc), r, hr, rfl, ?_⟩, rfl, rfl, hindent,
      fun hmark hmem => htick ⟨hmark, (mem_trim_iff (by decide)).1 hmem⟩⟩
    exact hl.dropEndWhile_raw.trans htext
  · rintro ⟨o, ho, rfl, rfl, hindent, htick⟩
    obtain ⟨hm, hn, -, r, hr, hinfo, htext⟩ := opening?_eq_some_iff.1 ho
    rw [hl.dropEndWhile_raw] at htext
    rw [hinfo, mem_trim_iff (by decide)] at htick
    have hmap := map_opening?_of_eq hindent hm hn hr htext
    rw [if_neg fun h => htick h.1 h.2, Option.map_eq_some_iff] at hmap
    obtain ⟨f, hf, heq⟩ := hmap
    exact ⟨f, hf, congrArg Prod.fst heq, congrArg Prod.snd heq⟩

/-! ### Closing lines -/

theorem isClosedBy_eq_true_iff (hm : isMarker f.mark) (hn : 0 < f.size) : f.isClosedBy l = true ↔
    ∃ a k w, (∀ c ∈ a, Line.isIndent c) ∧ f.size ≤ k ∧ (∀ c ∈ w, Line.isIndent c) ∧
      l.text = a ++ (List.replicate k f.mark ++ w) := by
  obtain ⟨r, -, hdrop, hrun⟩ := exists_run f.mark (l.text.dropWhile Line.isIndent)
  have hlength : (l.text.dropWhile Line.isIndent).length - r.length =
      runLength f.mark (l.text.dropWhile Line.isIndent) := by
    have := congrArg List.length hrun
    rw [List.length_append, List.length_replicate] at this
    omega
  simp only [CodeFence.isClosedBy, text_trimmed, hdrop, hlength, Bool.and_eq_true,
    decide_eq_true_eq, List.all_eq_true]
  constructor
  · rintro ⟨hsize, hblank⟩
    refine ⟨l.text.takeWhile Line.isIndent, _, r, fun c hc => List.mem_takeWhile_imp hc, hsize,
      hblank, ?_⟩
    rw [← hrun, List.takeWhile_append_dropWhile]
  · rintro ⟨a, k, w, ha, hk, hw, htext⟩
    obtain ⟨j, rfl⟩ : ∃ j, k = j + 1 := ⟨k - 1, by omega⟩
    have hindent : Line.isIndent f.mark = false := isIndent_eq_false_of_isMarker hm
    have htrim : l.text.dropWhile Line.isIndent = List.replicate (j + 1) f.mark ++ w := by
      rw [htext, List.dropWhile_append_of_pos ha, List.replicate_succ, List.cons_append,
        List.dropWhile_cons_of_neg (by simp [hindent])]
    have hhead : w.head? ≠ some f.mark := fun h =>
      absurd (hw _ (List.mem_of_head? h)) (by simp [hindent])
    rw [htrim, dropWhile_replicate_append hhead] at hdrop
    rw [htrim, runLength, takeWhile_replicate_append hhead, List.length_replicate, ← hdrop]
    exact ⟨hk, hw⟩

/-- A line that closes a fence closes a block of code in Markdown if its white space is made of
blanks and tabs. -/
theorem isClosedBy_iff (hl : l.IsWhole) (hm : isMarker o.marker) (hn : 0 < o.size)
    (hmark : f.mark = o.marker) (hsize : f.size = o.size) :
    f.isClosedBy l = true ↔
      o.closedBy l.raw = true ∧ ∀ c ∈ l.text, isBlank c → Line.isIndent c := by
  rw [Line.raw, closedBy_append_of_blank hm hn fun c hc => isBlank_of_isLineEnd (hl.ending c hc),
    closedBy_iff hm hn, isClosedBy_eq_true_iff (hmark ▸ hm) (hsize ▸ hn), hmark, hsize]
  constructor
  · rintro ⟨a, k, w, ha, hk, hw, htext⟩
    refine ⟨⟨a, k, w, fun c hc => isBlank_of_isIndent (ha c hc), hk,
      fun c hc => isBlank_of_isIndent (hw c hc), htext⟩, fun c hc hblank => ?_⟩
    rw [htext, List.mem_append, List.mem_append] at hc
    rcases hc with hc | hc | hc
    · exact ha c hc
    · rw [List.eq_of_mem_replicate hc, isBlank_eq_false_of_isMarker hm] at hblank
      cases hblank
    · exact hw c hc
  · rintro ⟨⟨a, k, w, ha, hk, hw, htext⟩, hindent⟩
    refine ⟨a, k, w, fun c hc => hindent c ?_ (ha c hc), hk, fun c hc => hindent c ?_ (hw c hc),
      htext⟩
    · rw [htext]
      exact List.mem_append_left _ hc
    · rw [htext]
      exact List.mem_append_right _ (List.mem_append_right _ hc)

end DocPreview.Markup
