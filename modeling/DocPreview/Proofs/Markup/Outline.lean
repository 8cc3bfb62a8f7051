import DocPreview.Markup.Outline
import DocPreview.Proofs.Markup.Fence
import DocPreview.Proofs.Text.Except
import Mathlib.Data.List.Infix

/-!
# Where code begins in an outline

Only a line with three equal markers in a row opens a block of code, behind whatever marks of
containers. Taking indentation and marks from a line makes no such row, and a leaf that is read anew
as text is made of lines that were read before. So an outline in which no code is open goes on
without one over lines that hold no marks.

A line that opens code and goes on with no container opens it outside of all containers, and only
its end ends it.

## Main definitions

* `Line.HoldsMarks`: a line with three equal markers in a row.
* `OpenLeaf.IsQuiet`: a leaf that holds no code, however it is read.
* `ReadsQuietly`: all that reading a number of lines anew can do to a leaf without code.

## Main results

* `readsQuietly`: lines without marks open no code.
* `isQuiet_readLine`: nor does one of them in a container.
* `exists_readLine_of_opening?`: a line that opens code.
* `exists_readLine_of_code`: a line in code.
-/

namespace DocPreview.Markup

open Text Document

variable {l l' : Line} {o o' : Outline} {n : Nat}

/-! ### Lines with marks -/

/-- A line with three equal markers in a row. -/
def Line.HoldsMarks (l : Line) : Prop := ∃ m, isMarker m ∧ [m, m, m] <:+: l.text

instance : Decidable l.HoldsMarks :=
  decidable_of_iff (['\x60', '\x60', '\x60'] <:+: l.text ∨ ['~', '~', '~'] <:+: l.text) (by
    simp [Line.HoldsMarks, isMarker])

theorem Line.HoldsMarks.of_suffix (h : l'.HoldsMarks) (hl : l'.text <:+ l.text) :
    l.HoldsMarks := by
  obtain ⟨m, hm, hmarks⟩ := h
  exact ⟨m, hm, hmarks.trans hl.isInfix⟩

theorem Line.HoldsMarks.of_drop {k : Nat} (h : (l.drop k).HoldsMarks) : l.HoldsMarks :=
  h.of_suffix (List.drop_suffix k l.text)

theorem Line.HoldsMarks.of_trimmed (h : l.trimmed.HoldsMarks) : l.HoldsMarks := h.of_drop

theorem infix_of_infix_replicate_append {m : Char} (hm : m ≠ ' ') {k : Nat} {r : Text}
    (h : [m, m, m] <:+: List.replicate k ' ' ++ r) : [m, m, m] <:+: r := by
  induction k with
  | zero => simpa using h
  | succ k ih =>
    rw [List.replicate_succ, List.cons_append, List.infix_cons_iff, List.cons_prefix_cons] at h
    exact ih (h.resolve_left fun hp => hm hp.1)

/-- Removing blanks and tabs makes no marks. -/
theorem infix_of_infix_dropColumns {m : Char} (hm : isMarker m) (k : Nat) (s : Text) (p : Point)
    (h : [m, m, m] <:+: (Line.dropColumns k s p).1) : [m, m, m] <:+: s := by
  have hblank : m ≠ ' ' := by
    rintro rfl
    exact absurd hm (by decide)
  fun_induction Line.dropColumns k s p with
  | case1 => exact h
  | case2 n r p hn ih => exact (ih h).trans (List.suffix_cons _ _).isInfix
  | case3 => exact h
  | case4 n r p width hn hw ih => exact (ih h).trans (List.suffix_cons _ _).isInfix
  | case5 n r p width hn hw =>
    exact (infix_of_infix_replicate_append hblank h).trans (List.suffix_cons _ _).isInfix
  | case6 => exact h

theorem Line.HoldsMarks.of_dropIndent {k : Nat} (h : (l.dropIndent k).HoldsMarks) :
    l.HoldsMarks := by
  obtain ⟨m, hm, hmarks⟩ := h
  exact ⟨m, hm, infix_of_infix_dropColumns hm k l.text l.start hmarks⟩

/-- A line that opens a block of code holds marks. -/
theorem holdsMarks_of_opening? {f : CodeFence} (h : CodeFence.opening? l = some f) :
    l.HoldsMarks := by
  obtain ⟨hm, hn, hsize⟩ := mark_and_size_of_opening? h
  obtain ⟨r, -, -, hrun⟩ := exists_run f.mark (l.text.dropWhile Line.isIndent)
  obtain ⟨k, hk⟩ : ∃ k, f.size = k + 3 := ⟨f.size - 3, by omega⟩
  rw [← hsize, hk, List.replicate_add, List.append_assoc] at hrun
  refine ⟨f.mark, hm, List.IsInfix.trans ?_ (List.dropWhile_suffix Line.isIndent).isInfix⟩
  rw [hrun]
  exact ⟨List.replicate k f.mark, r, by simp [List.replicate_succ]⟩

/-! ### Containers -/

theorem Line.HoldsMarks.of_quoteMark? (h : quoteMark? l = some l') (hl : l'.HoldsMarks) :
    l.HoldsMarks := by
  rw [quoteMark?] at h
  split at h
  · cases h
    exact hl.of_dropIndent.of_drop.of_trimmed
  · cases h

theorem Line.HoldsMarks.of_itemStart? {b : Bool} {c : Container}
    (h : itemStart? b l = some (c, l')) (hl : l'.HoldsMarks) : l.HoldsMarks := by
  rw [itemStart?, Option.bind_eq_bind, Option.bind_eq_some_iff] at h
  obtain ⟨⟨mark, number, k⟩, hmark, h⟩ := h
  dsimp only at h
  split at h
  · cases h
  split at h
  · cases h
  -- Nothing is left of an item that starts with an empty line.
  split at h
  · split at h
    · cases h
    · cases h
      obtain ⟨m, -, hmarks⟩ := hl
      cases List.infix_nil.1 hmarks
  · split at h
    · cases h
    · cases h
      exact hl.of_dropIndent.of_drop.of_trimmed

theorem Line.HoldsMarks.of_noteStart? {c : Container} (h : noteStart? l = some (c, l'))
    (hl : l'.HoldsMarks) : l.HoldsMarks := by
  simp only [noteStart?, Option.bind_eq_bind, Option.bind_eq_some_iff] at h
  obtain ⟨r, -, ⟨label, rest⟩, -, h⟩ := h
  dsimp only at h
  split_ifs at h
  · cases h
  · obtain ⟨after, -, h⟩ := Option.bind_eq_some_iff.1 h
    cases h
    exact hl.of_trimmed.of_drop.of_trimmed

/-- What is left of a line that starts a container holds no new marks. -/
theorem Line.HoldsMarks.of_opening? {b : Bool} {c : Container}
    (h : Container.opening? b l = some (c, l')) (hl : l'.HoldsMarks) : l.HoldsMarks := by
  rw [Container.opening?] at h
  split at h
  · rename_i hquote
    cases h
    exact hl.of_quoteMark? hquote
  · split at h
    · rename_i hitem
      cases h
      exact hl.of_itemStart? hitem
    · exact hl.of_noteStart? h

/-- What is left of a line that goes on with a container holds no new marks. -/
theorem Line.HoldsMarks.of_continue? {c c' : Container} (h : c.continue? l = some (c', l'))
    (hl : l'.HoldsMarks) : l.HoldsMarks := by
  rw [Container.continue?] at h
  split at h
  · obtain ⟨rest, hquote, heq⟩ := Option.map_eq_some_iff.1 h
    cases heq
    exact hl.of_quoteMark? hquote
  · split_ifs at h <;> cases h
    all_goals exact hl.of_dropIndent

theorem Line.HoldsMarks.of_continueFrames {fs : List Frame}
    (h : (Outline.continueFrames fs l).2.2.HoldsMarks) : l.HoldsMarks := by
  induction fs generalizing l with
  | nil => exact h
  | cons f fs ih =>
    rw [Outline.continueFrames] at h
    split at h
    · rename_i hcontinue
      exact (ih h).of_continue? hcontinue
    · exact h

theorem Line.HoldsMarks.of_openContainers {k : Nat} {b : Bool}
    (h : (Outline.openContainers k b o l).2.HoldsMarks) : l.HoldsMarks := by
  induction k generalizing b o l with
  | zero => exact h
  | succ k ih =>
    rw [Outline.openContainers] at h
    split at h
    · exact h
    · rename_i hopening
      exact (ih h).of_opening? hopening

/-! ### Leaves that hold no code -/

/-- A leaf that is no code, and in which no code is found if its lines are read anew. -/
def OpenLeaf.IsQuiet : OpenLeaf → Prop
  | .code _ _ => False
  | .markup before lines => before.IsQuiet ∧ ∀ l ∈ lines, ¬ l.HoldsMarks
  | _ => True

@[simp] theorem leaf_push (o : Outline) (b : Block) : (o.push b).leaf = o.leaf := by
  cases hf : o.frames <;> simp [Outline.push, hf]

@[simp] theorem leaf_endParagraph (o : Outline) (ls : List Line) :
    (o.endParagraph ls).leaf = .none := by
  rw [Outline.endParagraph]
  dsimp only
  split_ifs <;> simp

theorem isQuiet_addText (o : Outline) (l : Line) : (o.addText l).leaf.IsQuiet := by
  unfold Outline.addText
  repeat' split
  all_goals first | exact True.intro | (dsimp only; split_ifs <;> exact True.intro)

theorem leaf_foldl_push (ps : List Piece) :
    (ps.foldl (fun o p => o.push (.piece p)) o).leaf = o.leaf := by
  induction ps generalizing o with
  | nil => rfl
  | cons p ps ih => rw [List.foldl_cons, ih, leaf_push]

/-- Reading up to a number of lines anew opens no code if they hold no marks. -/
structure ReadsQuietly (n : Nat) : Prop where
  endLeaf : ∀ {p o o'}, Outline.endLeaf n p o = .ok o' → o.leaf.IsQuiet → o'.leaf.IsQuiet
  readAsText : ∀ {o ls o'}, Outline.readAsText n o ls = .ok o' → o.leaf.IsQuiet →
    (∀ l ∈ ls, ¬ l.HoldsMarks) → o'.leaf.IsQuiet
  readLeafLines : ∀ {o ls o'}, Outline.readLeafLines n o ls = .ok o' → o.leaf.IsQuiet →
    (∀ l ∈ ls, ¬ l.HoldsMarks) → o'.leaf.IsQuiet
  readMarkupLines : ∀ {o before ls o'}, Outline.readMarkupLines n o before ls = .ok o' →
    o.leaf.IsQuiet → before.IsQuiet → (∀ l ∈ ls, ¬ l.HoldsMarks) → o'.leaf.IsQuiet
  startLeaf : ∀ {o l o'}, Outline.startLeaf n o l = .ok o' → o.leaf.IsQuiet → ¬ l.HoldsMarks →
    o'.leaf.IsQuiet
  readLeafLine : ∀ {o l o'}, Outline.readLeafLine n o l = .ok o' → o.leaf.IsQuiet →
    ¬ l.HoldsMarks → o'.leaf.IsQuiet

namespace ReadsQuietly

theorem zero : ReadsQuietly 0 where
  endLeaf h _ := by
    cases h
    trivial
  readAsText {o ls o'} h ho _ := by
    cases ls <;> (cases h; exact ho)
  readLeafLines {o ls o'} h ho _ := by
    cases ls <;> (cases h; exact ho)
  readMarkupLines h ho _ _ := by
    cases h
    exact ho
  startLeaf h ho _ := by
    cases h
    exact ho
  readLeafLine h ho _ := by
    cases h
    exact ho

variable (hn : ReadsQuietly n)

include hn

theorem endLeaf_succ {p : Point} (h : Outline.endLeaf (n + 1) p o = .ok o')
    (ho : o.leaf.IsQuiet) : o'.leaf.IsQuiet := by
  rw [Outline.endLeaf] at h
  split at h
  · cases h
    exact ho
  · cases h
    simp [OpenLeaf.IsQuiet]
  · cases h
    trivial
  · cases h
    trivial
  · rename_i before lines hleaf
    rw [hleaf] at ho
    split at h
    · cases h
    · obtain ⟨o₁, hread, hend⟩ := exists_of_bind_eq_ok h
      refine hn.endLeaf hend (hn.readAsText hread ho.1 fun l hl => ho.2 l (List.mem_reverse.1 hl))
  · obtain ⟨items, -, h⟩ := exists_of_bind_eq_ok h
    split at h
    · cases h
      trivial
    · split at h <;> cases h
      trivial

theorem readAsText_succ {ls : List Line} (h : Outline.readAsText (n + 1) o ls = .ok o')
    (ho : o.leaf.IsQuiet) (hls : ∀ l ∈ ls, ¬ l.HoldsMarks) : o'.leaf.IsQuiet := by
  cases ls with
  | nil =>
    cases h
    exact ho
  | cons l ls =>
    rw [Outline.readAsText] at h
    exact hn.readLeafLines h (isQuiet_addText o l) fun l hl => hls l (List.mem_cons_of_mem _ hl)

theorem readLeafLines_succ {ls : List Line} (h : Outline.readLeafLines (n + 1) o ls = .ok o')
    (ho : o.leaf.IsQuiet) (hls : ∀ l ∈ ls, ¬ l.HoldsMarks) : o'.leaf.IsQuiet := by
  cases ls with
  | nil =>
    cases h
    exact ho
  | cons l ls =>
    rw [List.forall_mem_cons] at hls
    rw [Outline.readLeafLines] at h
    obtain ⟨o₁, hline, hlines⟩ := exists_of_bind_eq_ok h
    exact hn.readLeafLines hlines (hn.readLeafLine hline ho hls.1) hls.2

theorem readMarkupLines_succ {before : OpenLeaf} {ls : List Line}
    (h : Outline.readMarkupLines (n + 1) o before ls = .ok o') (hb : before.IsQuiet)
    (hls : ∀ l ∈ ls, ¬ l.HoldsMarks) : o'.leaf.IsQuiet := by
  rw [Outline.readMarkupLines] at h
  split at h
  · obtain ⟨o₁, hend, h⟩ := exists_of_bind_eq_ok h
    cases h
    rw [leaf_foldl_push]
    exact hn.endLeaf hend hb
  · cases h
  · exact hn.readAsText h hb fun l hl => hls l (List.mem_reverse.1 hl)
  · cases h
    exact ⟨hb, hls⟩
  · cases h
    exact ⟨hb, hls⟩

theorem startLeaf_succ (h : Outline.startLeaf (n + 1) o l = .ok o') (ho : o.leaf.IsQuiet)
    (hl : ¬ l.HoldsMarks) : o'.leaf.IsQuiet := by
  have hopening : CodeFence.opening? l = none :=
    Option.eq_none_iff_forall_not_mem.2 fun f hf => hl (holdsMarks_of_opening? hf)
  rw [Outline.startLeaf] at h
  simp only [hopening] at h
  split at h
  · obtain ⟨o₁, hend, h⟩ := exists_of_bind_eq_ok h
    cases h
    split
    · exact hn.endLeaf hend ho
    · exact leaf_push o₁ _ ▸ hn.endLeaf hend ho
  -- The next test looks at the open leaf, on which none of the cases depends.
  revert h
  refine iteInduction (motive := fun r => r = Except.ok o' → o'.leaf.IsQuiet)
    (fun _ h => ?_) fun _ h => ?_
  · cases h
    trivial
  split at h
  · exact hn.readMarkupLines h ho ho (List.forall_mem_singleton.2 hl)
  split at h
  · obtain ⟨o₁, hend, h⟩ := exists_of_bind_eq_ok h
    cases h
    exact leaf_push o₁ _ ▸ hn.endLeaf hend ho
  -- A line under a paragraph makes a heading of it; any other is a rule or goes on with text.
  · repeat' split at h
    all_goals first
      | (cases h; first | exact isQuiet_addText o l | simp [OpenLeaf.IsQuiet])
      | (obtain ⟨o₁, hend, h⟩ := exists_of_bind_eq_ok h
         cases h
         exact leaf_push o₁ _ ▸ hn.endLeaf hend ho)

theorem readLeafLine_succ (h : Outline.readLeafLine (n + 1) o l = .ok o') (ho : o.leaf.IsQuiet)
    (hl : ¬ l.HoldsMarks) : o'.leaf.IsQuiet := by
  rw [Outline.readLeafLine] at h
  split at h
  · rename_i hleaf
    rw [hleaf] at ho
    exact ho.elim
  · split_ifs at h with hblank
    · obtain ⟨items, -, h⟩ := exists_of_bind_eq_ok h
      split at h
      · exact hn.startLeaf h trivial hl
      · cases h
        trivial
    · cases h
      trivial
  · rename_i hleaf
    split_ifs at h with hlazy
    · split at h <;> cases h
    · rw [hleaf] at ho
      exact hn.readMarkupLines h (hleaf ▸ ho) ho.1 (List.forall_mem_cons.2 ⟨hl, ho.2⟩)
  · exact hn.startLeaf h ho hl

theorem succ : ReadsQuietly (n + 1) where
  endLeaf := hn.endLeaf_succ
  readAsText := hn.readAsText_succ
  readLeafLines := hn.readLeafLines_succ
  readMarkupLines h _ := hn.readMarkupLines_succ h
  startLeaf := hn.startLeaf_succ
  readLeafLine := hn.readLeafLine_succ

end ReadsQuietly

theorem readsQuietly (n : Nat) : ReadsQuietly n := by
  induction n with
  | zero => exact .zero
  | succ n ih => exact ih.succ

/-! ### Lines outside code -/

theorem length_frames_push (o : Outline) (b : Block) :
    (o.push b).frames.length = o.frames.length := by
  cases hf : o.frames <;> simp [Outline.push, hf]

theorem closeContainer_spec (o : Outline) : o.closeContainer.leaf = o.leaf ∧
    o.closeContainer.frames.length = o.frames.length - 1 := by
  unfold Outline.closeContainer
  split
  · rename_i hf
    simp [hf]
  · rename_i hf
    split <;> simp [length_frames_push, hf]

theorem closeContainers_spec (k : Nat) (o : Outline) : (o.closeContainers k).leaf = o.leaf ∧
    (o.closeContainers k).frames.length = o.frames.length - k := by
  induction k generalizing o with
  | zero => exact ⟨rfl, rfl⟩
  | succ k ih =>
    obtain ⟨hleaf, hlength⟩ := ih o.closeContainer
    obtain ⟨hleaf', hlength'⟩ := closeContainer_spec o
    refine ⟨hleaf.trans hleaf', ?_⟩
    rw [Outline.closeContainers, hlength, hlength']
    omega

@[simp] theorem leaf_openContainers (k : Nat) (b : Bool) (o : Outline) (l : Line) :
    (Outline.openContainers k b o l).1.leaf = o.leaf := by
  induction k generalizing b o l with
  | zero => rfl
  | succ k ih =>
    rw [Outline.openContainers]
    split
    · rfl
    · rw [ih]

/-- A line without marks opens no code, whatever containers it goes on with or starts. -/
theorem isQuiet_readLine (h : Outline.readLine n o l = .ok o') (ho : o.leaf.IsQuiet)
    (hl : ¬ l.HoldsMarks) : o'.leaf.IsQuiet := by
  have hn := readsQuietly n
  rw [Outline.readLine] at h
  split at h
  rename_i kept closed rest hcontinue
  have hrest : ¬ rest.HoldsMarks := fun hr =>
    hl (.of_continueFrames (by rw [hcontinue]; exact hr))
  extract_lets o₀ finish interrupts at h
  have ho₀ : o₀.leaf.IsQuiet := ho
  split at h
  · obtain ⟨o₁, hline, h⟩ := exists_of_bind_eq_ok h
    cases h
    change o₁.leaf.IsQuiet
    exact hn.readLeafLine hline ho₀ hrest
  split at h
  · obtain ⟨o₁, hend, h⟩ := exists_of_bind_eq_ok h
    generalize hopened : Outline.openContainers _ _ _ _ = opened at h
    obtain ⟨o₂, hline, h⟩ := exists_of_bind_eq_ok h
    cases h
    change o₂.leaf.IsQuiet
    refine hn.readLeafLine hline ?_ fun hr => hrest (.of_openContainers (by rw [hopened]; exact hr))
    rw [← hopened, leaf_openContainers, (closeContainers_spec _ _).1]
    exact hn.endLeaf hend ho₀
  split at h
  · obtain ⟨o₁, hline, h⟩ := exists_of_bind_eq_ok h
    cases h
    change o₁.leaf.IsQuiet
    exact hn.readLeafLine hline ho₀ hrest
  split at h
  · obtain ⟨o₁, hline, h⟩ := exists_of_bind_eq_ok h
    cases h
    change o₁.leaf.IsQuiet
    exact hn.readLeafLine hline ho₀ hrest
  · obtain ⟨o₁, hend, h⟩ := exists_of_bind_eq_ok h
    obtain ⟨o₂, hline, h⟩ := exists_of_bind_eq_ok h
    cases h
    change o₂.leaf.IsQuiet
    refine hn.readLeafLine hline ?_ hrest
    rw [(closeContainers_spec _ _).1]
    exact hn.endLeaf hend ho₀

/-! ### Lines that open code -/

variable {f : CodeFence}

theorem exists_text_of_opening? (h : CodeFence.opening? l = some f) :
    isMarker f.mark ∧ ∃ r, l.text.dropWhile Line.isIndent = f.mark :: r := by
  obtain ⟨hm, hn, hsize⟩ := mark_and_size_of_opening? h
  obtain ⟨r, -, -, hrun⟩ := exists_run f.mark (l.text.dropWhile Line.isIndent)
  obtain ⟨k, hk⟩ : ∃ k, f.size = k + 1 := ⟨f.size - 1, by omega⟩
  rw [← hsize, hk, List.replicate_succ, List.cons_append] at hrun
  exact ⟨hm, _, hrun⟩

/-- A line that opens code starts no container. -/
theorem container_opening?_eq_none (h : CodeFence.opening? l = some f) (b : Bool) :
    Container.opening? b l = none := by
  obtain ⟨hm, r, hr⟩ := exists_text_of_opening? h
  have hmarks : quoteMark? l = none ∧ itemMark? (f.mark :: r) = none ∧
      after? ['[', '^'] (f.mark :: r) = none := by
    simp only [quoteMark?, text_trimmed, hr]
    obtain hmark | hmark : f.mark = '\x60' ∨ f.mark = '~' := by simpa [isMarker] using hm
    all_goals
      rw [hmark]
      exact ⟨rfl, rfl, rfl⟩
  have hitem : itemStart? b l = none := by
    rw [itemStart?, text_trimmed, hr, hmarks.2.1]
    rfl
  have hnote : noteStart? l = none := by
    rw [noteStart?, text_trimmed, hr, hmarks.2.2]
    rfl
  rw [Container.opening?, hmarks.1, hitem, hnote]

theorem startsModule_eq_false (h : CodeFence.opening? l = some f) : startsModule l = false := by
  obtain ⟨hm, r, hr⟩ := exists_text_of_opening? h
  have htext := List.takeWhile_append_dropWhile (p := Line.isIndent) (l := l.text)
  rw [hr] at htext
  obtain ⟨c, s, hs, hc⟩ : ∃ c s, l.text = c :: s ∧ (Line.isIndent c ∨ isMarker c) := by
    cases hindent : l.text.takeWhile Line.isIndent with
    | nil =>
      rw [hindent] at htext
      exact ⟨_, _, htext.symm, Or.inr hm⟩
    | cons c s =>
      rw [hindent] at htext
      exact ⟨_, _, htext.symm, Or.inl (List.mem_takeWhile_imp (hindent ▸ List.mem_cons_self))⟩
  have hword (word : Text) (w : Char) (hw : Line.isIndent w = false ∧ isMarker w = false) :
      after? (w :: word) l.text = none := by
    rw [hs, after?, if_neg]
    rintro rfl
    simp [hw] at hc
  have himport : after? "import ".toList l.text = none := hword _ 'i' (by decide)
  have hexport : after? "export ".toList l.text = none := hword _ 'e' (by decide)
  rw [startsModule, himport, hexport]
  simp

theorem isBlank_eq_false (h : CodeFence.opening? l = some f) : l.isBlank = false := by
  obtain ⟨hm, r, hr⟩ := exists_text_of_opening? h
  have hmem : f.mark ∈ l.text := (List.dropWhile_suffix Line.isIndent).subset (by rw [hr]; simp)
  rw [Line.isBlank, List.all_eq_false]
  exact ⟨_, hmem, by simp [isIndent_eq_false_of_isMarker hm]⟩

/-- A leaf that goes on with anything ends without a failure. -/
theorem exists_endLeaf (ho : o.isOpaque = false) (n : Nat) (p : Point) :
    ∃ o', Outline.endLeaf n p o = .ok o' ∧ o'.leaf = .none ∧
      o'.frames.length = o.frames.length := by
  cases n with
  | zero => exact ⟨_, rfl, rfl, rfl⟩
  | succ n =>
    rw [Outline.endLeaf]
    split
    · rename_i hleaf
      exact ⟨_, rfl, hleaf, rfl⟩
    · rename_i lines hleaf
      refine ⟨_, rfl, leaf_endParagraph .., ?_⟩
      rw [Outline.endParagraph]
      dsimp only
      split_ifs <;> simp [length_frames_push]
    · rename_i hleaf
      simp [Outline.isOpaque, hleaf] at ho
    · exact ⟨_, rfl, rfl, length_frames_push ..⟩
    all_goals
      rename_i hleaf
      simp [Outline.isOpaque, hleaf] at ho

/-- A line that opens code does so in every leaf that is not unfinished. -/
theorem exists_readLeafLine (h : CodeFence.opening? l = some f) (ho : o.isOpaque = false)
    (n : Nat) : ∃ o', Outline.readLeafLine (n + 2) o l = .ok o' ∧ o'.leaf = .code f [] ∧
      o'.frames.length = o.frames.length := by
  obtain ⟨o₁, hend, -, hlength⟩ := exists_endLeaf ho n o.lastEnd
  have hstart : Outline.startLeaf (n + 1) o l = .ok { o₁ with leaf := .code f [] } := by
    rw [Outline.startLeaf]
    simp only [isBlank_eq_false h, startsModule_eq_false h, h, hend, Bool.and_false]
    rfl
  refine ⟨{ o₁ with leaf := .code f [] }, ?_, rfl, hlength⟩
  rw [← hstart, Outline.readLeafLine]
  split
  all_goals first
    | rfl
    | (rename_i hleaf; simp [Outline.isOpaque, hleaf] at ho)

theorem continueFrames_eq {fs : List Frame} (h : ∀ c ∈ fs, c.container.continue? l = none) :
    Outline.continueFrames fs l = (fs, fs.length, l) := by
  cases fs with
  | nil => rfl
  | cons c fs =>
    rw [Outline.continueFrames, h c List.mem_cons_self]
    rfl

theorem acceptsLazily_eq_false (h : CodeFence.opening? l = some f) (ho : o.isOpaque = false) :
    o.acceptsLazily l = false := by
  rw [Outline.acceptsLazily]
  split
  · simp [h]
  · rename_i hleaf
    simp [Outline.isOpaque, hleaf] at ho
  · rfl

/-- A line that opens code and goes on with no container opens it outside of all containers. -/
theorem exists_readLine_of_opening? (h : CodeFence.opening? l = some f) (ho : o.isOpaque = false)
    (hframes : ∀ c ∈ o.frames, c.container.continue? l = none) (n : Nat) :
    ∃ o', Outline.readLine (n + 2) o l = .ok o' ∧ o'.frames = [] ∧ o'.leaf = .code f [] := by
  have hcontinue : Outline.continueFrames o.frames.reverse l = (o.frames.reverse, o.frames.length,
      l) := by
    rw [continueFrames_eq fun c hc => hframes c (List.mem_reverse.1 hc), List.length_reverse]
  rw [Outline.readLine, hcontinue]
  simp only [List.reverse_reverse, ho, Bool.and_false, Bool.false_eq_true, ↓reduceIte,
    container_opening?_eq_none h, acceptsLazily_eq_false h ho]
  split
  · rename_i hlength
    obtain ⟨o', hread, hleaf, hframes'⟩ := exists_readLeafLine h ho n
    refine ⟨{ o' with lastEnd := l.stop }, by rw [hread]; rfl, ?_, hleaf⟩
    exact List.length_eq_zero_iff.1 (hframes'.trans hlength)
  · obtain ⟨o₁, hend, hleaf₁, hframes₁⟩ := exists_endLeaf ho (n + 2) l.start
    obtain ⟨hleaf₂, hframes₂⟩ := closeContainers_spec o.frames.length o₁
    have ho₂ : (o₁.closeContainers o.frames.length).isOpaque = false := by
      simp [Outline.isOpaque, hleaf₂, hleaf₁]
    obtain ⟨o', hread, hleaf, hframes'⟩ := exists_readLeafLine h ho₂ n
    refine ⟨{ o' with lastEnd := l.stop }, ?_, ?_, hleaf⟩
    · rw [hend]
      change (Outline.readLeafLine (n + 2) (o₁.closeContainers o.frames.length) l >>= _) = _
      rw [hread]
      rfl
    · refine List.length_eq_zero_iff.1 (hframes'.trans ?_)
      rw [hframes₂, hframes₁, Nat.sub_self]

/-! ### Lines in code -/

/-- A line in code outside of all containers ends it or joins it. -/
theorem exists_readLine_of_code {ls : List Line} (hframes : o.frames = [])
    (hleaf : o.leaf = .code f ls) (hl : l.isLazy = false) (n : Nat) :
    ∃ o', Outline.readLine (n + 1) o l = .ok o' ∧
      if f.isClosedBy l then o'.leaf = .none else o'.frames = [] ∧ o'.leaf = .code f (l :: ls) := by
  obtain ⟨frames, blocks, leaf, definitions, notes, lastEnd⟩ := o
  subst hframes hleaf
  have hread : Outline.readLine (n + 1) ⟨[], blocks, .code f ls, definitions, notes, lastEnd⟩ l =
      Outline.readLeafLine (n + 1) ⟨[], blocks, .code f ls, definitions, notes, lastEnd⟩ l >>=
        fun o => .ok { o with lastEnd := l.stop } := rfl
  rw [hread, Outline.readLeafLine]
  simp only [hl, Bool.false_eq_true, ↓reduceIte]
  by_cases hclosed : f.isClosedBy l = true
  · simp only [hclosed, ↓reduceIte]
    cases n with
    | zero => exact ⟨_, rfl, rfl⟩
    | succ n => exact ⟨_, rfl, rfl⟩
  · simp only [hclosed, Bool.false_eq_true, ↓reduceIte]
    exact ⟨_, rfl, rfl, rfl⟩

end DocPreview.Markup
