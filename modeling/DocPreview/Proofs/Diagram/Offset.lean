import DocPreview.Diagram.Substitution
import DocPreview.Proofs.Diagram.Scan
import DocPreview.Proofs.Text.Slice

/-!
# Replacing the blocks of a text by offsets

Replacements are collected one after the other, where none may begin before the one before it ends,
and are then put into the text in one walk that cuts out what stands between them. `splice?` has a
value only if the replacements are in order and every cut is at a border of characters.

The blocks of a text are in order, and a block begins and ends where it is written. So `splice?`
has a value for the blocks of every text, whatever is put in their places, and it is the text that
a pass leaves.

## Main definitions

* `add?`, `spliceFrom?`, `splice?`: collecting replacements, and putting them into a text.

## Main results

* `pairwise_blocks`: no block begins before the one before it ends.
* `splice?_settled`: the blocks of every text can be replaced.
-/

namespace DocPreview.Diagram

open Text

/-- Replacements with one more, if it does not begin before the last one ends. -/
def add? (rs : List Replacement) (r : Replacement) : Option (List Replacement) :=
  if ∀ last ∈ rs.getLast?, last.stop ≤ r.start then some (rs ++ [r]) else none

/-- What the bytes of a text from `cursor` on become when spans behind it are replaced. -/
def spliceFrom? (s : Text) : Nat → List Replacement → Option Text
  | cursor, [] => slice? s cursor (byteSize s)
  | cursor, r :: rs => do
    let gap ← slice? s cursor r.start
    return gap ++ r.content ++ (← spliceFrom? s r.stop rs)

/-- A text with spans replaced that are collected first. -/
def splice? (s : Text) (rs : List Replacement) : Option Text := do
  spliceFrom? s 0 (← rs.foldlM add? [])

variable {d : Dialect} {s : Text} {rs : List Replacement}

/-! ### Collecting and replacing -/

/-- Replacements in order are collected. -/
theorem foldlM_add? (collected : List Replacement)
    (h : (collected ++ rs).Pairwise fun p r => p.stop ≤ r.start) :
    rs.foldlM add? collected = some (collected ++ rs) := by
  induction rs generalizing collected with
  | nil => rw [List.append_nil]; rfl
  | cons r rs ih =>
    have hlast : ∀ last ∈ collected.getLast?, last.stop ≤ r.start := fun last hmem =>
      (List.pairwise_append.1 h).2.2 last (List.mem_of_getLast? hmem) r List.mem_cons_self
    have hrest := ih (collected ++ [r]) (by rwa [List.append_assoc])
    rw [List.foldlM_cons, add?, if_pos hlast]
    exact hrest.trans (by rw [List.append_assoc, List.singleton_append])

/-- Between borders of characters in order there is a slice. -/
theorem slice?_eq_some_slice {m n : Nat} (hle : m ≤ n) (hm : isBoundary s m = true)
    (hn : isBoundary s n = true) : slice? s m n = some (slice s m n) :=
  if_pos ⟨hle, hm, hn⟩

/-- Replacements in order whose spans are cut at borders of characters can be put into the text. -/
theorem spliceFrom?_eq {cursor : Nat} (hcursor : isBoundary s cursor = true)
    (hfirst : ∀ r ∈ rs, cursor ≤ r.start)
    (hspan : ∀ r ∈ rs, isBoundary s r.start = true ∧ isBoundary s r.stop = true)
    (horder : rs.Pairwise fun p r => p.stop ≤ r.start) :
    spliceFrom? s cursor rs = some (spliceFrom s cursor rs) := by
  induction rs generalizing cursor with
  | nil =>
    obtain ⟨a, b, rfl, rfl⟩ := isBoundary_iff.1 hcursor
    rw [spliceFrom?, slice?_byteSize_append, spliceFrom, dropBytes_byteSize]
  | cons r rs ih =>
    rw [List.forall_mem_cons] at hfirst hspan
    rw [List.pairwise_cons] at horder
    rw [spliceFrom?, slice?_eq_some_slice hfirst.1 hcursor hspan.1.1,
      ih hspan.1.2 horder.1 hspan.2 horder.2]
    rfl

/-! ### Blocks -/

/-- No block begins before the one before it ends. -/
theorem pairwise_blocksFrom (index start : Nat) (ps : List Piece) :
    (blocksFrom d index start ps).Pairwise fun a b => a.stop ≤ b.start := by
  induction ps generalizing index start with
  | nil => exact .nil
  | cons p ps ih =>
    cases p with
    | char c => exact ih ..
    | fence f => exact .cons (fun b hb => (span_of_mem_blocksFrom hb).1) (ih ..)

theorem pairwise_blocks (d : Dialect) (s : Text) :
    (blocks d s).Pairwise fun a b => a.stop ≤ b.start :=
  pairwise_blocksFrom 0 0 (pieces d s)

/-- A block begins and ends at borders of characters. -/
theorem isBoundary_of_mem_blocks {b : Block} (h : b ∈ blocks d s) :
    isBoundary s b.start = true ∧ isBoundary s b.stop = true := by
  obtain ⟨a, r, rfl, hstart⟩ := exists_append_of_mem_blocks h
  refine ⟨?_, ?_⟩
  · rw [hstart]
    exact isBoundary_append ..
  · rw [Block.stop, hstart, ← byteSize_append, ← List.append_assoc]
    exact isBoundary_append ..

/-- Blocks of a text can be replaced, whatever their outcomes are. -/
theorem splice?_settled {bs : List Settled} (h : (bs.map Settled.block).Sublist (blocks d s)) :
    splice? s (bs.map Settled.replacement) = some (Pass.ofSettled s bs).text := by
  have horder : (bs.map Settled.replacement).Pairwise fun p r => p.stop ≤ r.start :=
    List.pairwise_map.2 (List.pairwise_map.1 ((pairwise_blocks d s).sublist h))
  have hspan : ∀ r ∈ bs.map Settled.replacement,
      isBoundary s r.start = true ∧ isBoundary s r.stop = true := by
    intro r hr
    obtain ⟨b, hb, rfl⟩ := List.mem_map.1 hr
    exact isBoundary_of_mem_blocks (h.subset (List.mem_map_of_mem hb))
  rw [splice?, foldlM_add? [] horder]
  exact spliceFrom?_eq (isBoundary_zero s) (fun r _ => Nat.zero_le _) hspan horder

/-- Blocks with the outcomes of asking for them are those blocks, as far as there are outcomes. -/
theorem map_block_zipWith (bs : List Block) (outcomes : List (Except Failure String)) :
    (bs.zipWith Settled.mk outcomes).map Settled.block = bs.take outcomes.length := by
  induction bs generalizing outcomes with
  | nil => simp
  | cons b bs ih => cases outcomes <;> simp [ih]

end DocPreview.Diagram
