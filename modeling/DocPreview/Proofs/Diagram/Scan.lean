import DocPreview.Proofs.Diagram.Fence
import DocPreview.Proofs.Text.Slice

/-!
# The scan of a text for fences

`Scan d s ps` says that a text is cut into pieces from its start on: a fence where one begins, else
a character. It is the graph of `pieces`, and the form in which the later files use it. The
characters between the fences form the gaps of the text; the blocks are the fences with their
numbers and places.

## Main definitions

* `Scan`: the cutting of a text into pieces.
* `gaps`: the stretches of a text between its fences.

## Main results

* `scan_iff`: a text has exactly one scan, which `pieces` computes.
* `interleave_gaps_blocks`: a text alternates between its gaps and its blocks.
* `exists_append_of_mem_blocks`: the place of a block is where it is written.
* `blocks_eq_nil_iff`: a text has no block exactly if no suffix begins with a fence.
-/

namespace DocPreview.Diagram

open Text

variable {d : Dialect}

/-- The cutting of a text into pieces from its start on. -/
inductive Scan (d : Dialect) : Text → List Piece → Prop
  | nil : Scan d [] []
  | char {c : Char} {r : Text} {ps : List Piece} (h : found? d (c :: r) = none)
      (hr : Scan d r ps) : Scan d (c :: r) (.char c :: ps)
  | fence {s r : Text} {f : Found} {ps : List Piece} (h : found? d s = some (f, r))
      (hr : Scan d r ps) : Scan d s (.fence f :: ps)

theorem scan_piecesWithin (d : Dialect) :
    ∀ (fuel : Nat) (s : Text), s.length ≤ fuel → Scan d s (piecesWithin d fuel s)
  | 0, s, h => by
    obtain rfl := List.length_eq_zero_iff.1 (Nat.le_zero.1 h)
    exact .nil
  | _ + 1, [], _ => .nil
  | fuel + 1, c :: r, h => by
    rw [piecesWithin]
    cases hf : found? d (c :: r) with
    | none => exact .char hf (scan_piecesWithin d fuel r (Nat.le_of_succ_le_succ h))
    | some p =>
      have hlt : p.2.length < (c :: r).length := length_lt_of_found? hf
      exact .fence hf (scan_piecesWithin d fuel p.2 (by omega))

/-- The pieces of a text are a scan of it. -/
theorem scan_pieces (d : Dialect) (s : Text) : Scan d s (pieces d s) :=
  scan_piecesWithin d s.length s le_rfl

theorem found?_nil (d : Dialect) : found? d [] = none := by
  cases d <;> rfl

theorem Scan.unique {s : Text} {ps qs : List Piece} (hp : Scan d s ps) (hq : Scan d s qs) :
    ps = qs := by
  induction hp generalizing qs with
  | nil =>
    cases hq with
    | nil => rfl
    | fence h => simp [found?_nil] at h
  | char h _ ih =>
    cases hq with
    | char _ hr => rw [ih hr]
    | fence h' => simp [h] at h'
  | fence h _ ih =>
    cases hq with
    | nil => simp [found?_nil] at h
    | char h' => simp [h] at h'
    | fence h' hr =>
      obtain ⟨rfl, rfl⟩ : _ ∧ _ := by simpa [h] using h'
      rw [ih hr]

/-- A text has exactly one scan. -/
theorem scan_iff {s : Text} {ps : List Piece} : Scan d s ps ↔ pieces d s = ps :=
  ⟨fun h => (scan_pieces d s).unique h, fun h => h ▸ scan_pieces d s⟩

/-- The pieces of a scan cover the text. -/
theorem Scan.flatMap_raw {s : Text} {ps : List Piece} (h : Scan d s ps) :
    ps.flatMap Piece.raw = s := by
  induction h with
  | nil => rfl
  | char _ _ ih => simp [Piece.raw, ih]
  | fence h _ ih => rw [List.flatMap_cons, ih, Piece.raw, matched_append_of_found? h]

/-- What is scanned after some pieces. -/
theorem Scan.of_append {s : Text} {ps qs : List Piece} (h : Scan d s (ps ++ qs)) :
    Scan d (qs.flatMap Piece.raw) qs := by
  induction ps generalizing s with
  | nil => exact (Scan.flatMap_raw h).symm ▸ h
  | cons p ps ih => cases h with
    | char _ hr => exact ih hr
    | fence _ hr => exact ih hr

/-- A text in which no fence begins is scanned as its characters. -/
theorem Scan.map_char_append {s w : Text} {ps : List Piece} (h : Scan d w ps)
    (hs : ∀ y, y <:+ s → y ≠ [] → found? d (y ++ w) = none) :
    Scan d (s ++ w) (s.map .char ++ ps) := by
  induction s with
  | nil => exact h
  | cons c s ih =>
    exact .char (hs _ List.suffix_rfl (List.cons_ne_nil _ _))
      (ih fun y hy => hs y (hy.trans (List.suffix_cons ..)))

/-- No fence begins at a piece that is a character. -/
theorem Scan.found?_eq_none {s : Text} {ps qs : List Piece} {c : Char} (h : Scan d s ps)
    (hqs : (.char c :: qs) <:+ ps) : found? d (c :: qs.flatMap Piece.raw) = none := by
  obtain ⟨rs, rfl⟩ := hqs
  cases h.of_append with
  | char hnone _ => exact hnone

/-! ### Gaps -/

/-- The stretches of characters before, between and after the fences among pieces. -/
def gapsOf : List Piece → List Text
  | [] => [[]]
  | .char c :: ps => (gapsOf ps).modifyHead (c :: ·)
  | .fence _ :: ps => [] :: gapsOf ps

/-- The stretches of a text before, between and after its fences of a dialect. -/
def gaps (d : Dialect) (s : Text) : List Text := gapsOf (pieces d s)

theorem gapsOf_ne_nil (ps : List Piece) : gapsOf ps ≠ [] := by
  induction ps with
  | nil => exact List.cons_ne_nil _ _
  | cons p ps ih =>
    cases p with
    | char c => simpa only [gapsOf, ne_eq, List.modifyHead_eq_nil_iff] using ih
    | fence f => exact List.cons_ne_nil _ _

theorem gapsOf_map_char_append (s : Text) (ps : List Piece) :
    gapsOf (s.map .char ++ ps) = (gapsOf ps).modifyHead (s ++ ·) := by
  obtain ⟨g, gs, hg⟩ := List.exists_cons_of_ne_nil (gapsOf_ne_nil ps)
  induction s with
  | nil => simp [hg]
  | cons c s ih => rw [List.map_cons, List.cons_append, gapsOf, ih, hg]; rfl

/-- A fence ends a gap. -/
theorem gapsOf_append_fence (ps : List Piece) (f : Found) (qs : List Piece) :
    gapsOf (ps ++ .fence f :: qs) = gapsOf ps ++ gapsOf qs := by
  induction ps with
  | nil => rfl
  | cons p ps ih =>
    cases p with
    | char c =>
      obtain ⟨g, gs, hg⟩ := List.exists_cons_of_ne_nil (gapsOf_ne_nil ps)
      rw [List.cons_append, gapsOf, ih, gapsOf, hg]
      rfl
    | fence g => rw [List.cons_append, gapsOf, ih, gapsOf, List.cons_append]

/-- Every gap but the last one has a fence after it. -/
theorem exists_fence_of_lt {ps : List Piece} {k : Nat} (h : k + 1 < (gapsOf ps).length) :
    ∃ qs f rs, ps = qs ++ .fence f :: rs ∧ (gapsOf qs).length = k + 1 := by
  induction ps generalizing k with
  | nil => simp [gapsOf] at h
  | cons p ps ih =>
    cases p with
    | char c =>
      rw [gapsOf, List.length_modifyHead] at h
      obtain ⟨qs, f, rs, rfl, hlen⟩ := ih h
      exact ⟨.char c :: qs, f, rs, rfl, by rw [gapsOf, List.length_modifyHead, hlen]⟩
    | fence f =>
      cases k with
      | zero => exact ⟨[], f, ps, rfl, rfl⟩
      | succ k =>
        rw [gapsOf, List.length_cons] at h
        obtain ⟨qs, g, rs, rfl, hlen⟩ := ih (Nat.lt_of_succ_lt_succ h)
        exact ⟨.fence f :: qs, g, rs, rfl, by rw [gapsOf, List.length_cons, hlen]⟩

/-- Text before the first gap is text before all gaps and parts. -/
theorem interleave_modifyHead (c : Char) {gs : List Text} (hgs : gs ≠ []) (ps : List Text) :
    interleave (gs.modifyHead (c :: ·)) ps = c :: interleave gs ps := by
  obtain ⟨g, gs, rfl⟩ := List.exists_cons_of_ne_nil hgs
  cases ps <;> rfl

/-! ### Blocks -/

theorem length_gapsOf (index start : Nat) (ps : List Piece) :
    (gapsOf ps).length = (blocksFrom d index start ps).length + 1 := by
  induction ps generalizing index start with
  | nil => rfl
  | cons p ps ih =>
    cases p with
    | char c => rw [gapsOf, List.length_modifyHead, ih, blocksFrom]
    | fence f => rw [gapsOf, List.length_cons, ih, blocksFrom, List.length_cons]

/-- There is one gap more than there are blocks. -/
theorem length_gaps (d : Dialect) (s : Text) : (gaps d s).length = (blocks d s).length + 1 :=
  length_gapsOf 0 0 (pieces d s)

theorem interleave_gapsOf (index start : Nat) (ps : List Piece) :
    interleave (gapsOf ps) ((blocksFrom d index start ps).map Block.matched) =
      ps.flatMap Piece.raw := by
  induction ps generalizing index start with
  | nil => rfl
  | cons p ps ih =>
    cases p with
    | char c =>
      rw [gapsOf, interleave_modifyHead c (gapsOf_ne_nil ps), blocksFrom, ih]
      rfl
    | fence f =>
      rw [gapsOf, blocksFrom, List.map_cons, interleave_cons, ih]
      rfl

/-- A gap occurs in what the pieces cover. -/
theorem infix_raw_of_mem_gapsOf {g : Text} {ps : List Piece} (h : g ∈ gapsOf ps) :
    g <:+: ps.flatMap Piece.raw := by
  rw [← interleave_gapsOf (d := .mermaid) 0 0]
  exact infix_interleave_of_mem h _

/-- A text alternates between its gaps and its blocks. -/
theorem interleave_gaps_blocks (d : Dialect) (s : Text) :
    interleave (gaps d s) ((blocks d s).map Block.matched) = s :=
  (interleave_gapsOf 0 0 (pieces d s)).trans (scan_pieces d s).flatMap_raw

theorem map_index_blocksFrom (index start : Nat) (ps : List Piece) :
    (blocksFrom d index start ps).map Block.index =
      List.range' index (blocksFrom d index start ps).length := by
  induction ps generalizing index start with
  | nil => rfl
  | cons p ps ih =>
    cases p with
    | char c => exact ih ..
    | fence f => rw [blocksFrom, List.map_cons, ih, List.length_cons, List.range'_succ]

/-- The blocks are numbered from zero on. -/
theorem map_index_blocks (d : Dialect) (s : Text) :
    (blocks d s).map Block.index = List.range (blocks d s).length := by
  rw [List.range_eq_range']
  exact map_index_blocksFrom 0 0 (pieces d s)

theorem dialect_of_mem_blocksFrom {index start : Nat} {ps : List Piece} {b : Block}
    (h : b ∈ blocksFrom d index start ps) : b.dialect = d := by
  induction ps generalizing index start with
  | nil => simp [blocksFrom] at h
  | cons p ps ih =>
    cases p with
    | char c => exact ih h
    | fence f =>
      rcases List.mem_cons.1 h with rfl | h
      · rfl
      · exact ih h

theorem dialect_of_mem_blocks {s : Text} {b : Block} (h : b ∈ blocks d s) : b.dialect = d :=
  dialect_of_mem_blocksFrom h

theorem blocksFrom_append (index start : Nat) (ps qs : List Piece) :
    blocksFrom d index start (ps ++ qs) = blocksFrom d index start ps ++
      blocksFrom d (index + (blocksFrom d index start ps).length)
        (start + byteSize (ps.flatMap Piece.raw)) qs := by
  induction ps generalizing index start with
  | nil => simp [blocksFrom]
  | cons p ps ih =>
    cases p with
    | char c =>
      rw [List.cons_append, blocksFrom, ih, blocksFrom, List.flatMap_cons, byteSize_append,
        ← Nat.add_assoc]
      rfl
    | fence f =>
      rw [List.cons_append, blocksFrom, ih, blocksFrom, List.flatMap_cons, byteSize_append,
        ← Nat.add_assoc, List.length_cons, Nat.add_assoc index, Nat.add_comm 1]
      rfl

/-- The spans of blocks lie in the span of the pieces. -/
theorem span_of_mem_blocksFrom {index start : Nat} {ps : List Piece} {b : Block}
    (h : b ∈ blocksFrom d index start ps) :
    start ≤ b.start ∧ b.stop ≤ start + byteSize (ps.flatMap Piece.raw) := by
  induction ps generalizing index start with
  | nil => simp [blocksFrom] at h
  | cons p ps ih =>
    rw [List.flatMap_cons, byteSize_append]
    cases p with
    | char c =>
      obtain ⟨hstart, hstop⟩ := ih h
      simp only [Piece.raw, byteSize_cons, byteSize_nil]
      omega
    | fence f =>
      rcases List.mem_cons.1 h with rfl | h
      · simp only [Block.stop, Piece.raw]
        omega
      · obtain ⟨hstart, hstop⟩ := ih h
        simp only [Piece.raw]
        omega

theorem exists_append_of_mem_blocksFrom {index : Nat} {a : Text} {ps : List Piece} {b : Block}
    (h : b ∈ blocksFrom d index (byteSize a) ps) :
    ∃ p r, a ++ ps.flatMap Piece.raw = p ++ (b.matched ++ r) ∧ b.start = byteSize p := by
  induction ps generalizing index a with
  | nil => cases h
  | cons q ps ih =>
    rw [List.flatMap_cons, ← List.append_assoc]
    cases q with
    | char c => exact ih (a := a ++ [c]) (by rwa [byteSize_append])
    | fence f =>
      rcases List.mem_cons.1 h with rfl | h
      · exact ⟨a, _, List.append_assoc .., rfl⟩
      · exact ih (a := a ++ f.matched) (by rwa [byteSize_append])

/-- The place of a block is where it is written. -/
theorem exists_append_of_mem_blocks {s : Text} {b : Block} (h : b ∈ blocks d s) :
    ∃ p r, s = p ++ (b.matched ++ r) ∧ b.start = byteSize p := by
  obtain ⟨p, r, hs, hstart⟩ := exists_append_of_mem_blocksFrom (a := []) h
  rw [List.nil_append, (scan_pieces d s).flatMap_raw] at hs
  exact ⟨p, r, hs, hstart⟩

/-- Among pieces that hold no fence there is no block. -/
theorem blocksFrom_eq_nil_iff {index start : Nat} {ps : List Piece} :
    blocksFrom d index start ps = [] ↔ ∀ f, Piece.fence f ∉ ps := by
  induction ps generalizing index start with
  | nil => simp [blocksFrom]
  | cons p ps ih =>
    cases p with
    | char c => simp [blocksFrom, ih]
    | fence f =>
      simp only [blocksFrom, reduceCtorEq, false_iff, not_forall, not_not]
      exact ⟨f, List.mem_cons_self⟩

/-- Characters before pieces move the places of the blocks. -/
theorem blocksFrom_map_char_append (index start : Nat) (s : Text) (ps : List Piece) :
    blocksFrom d index start (s.map .char ++ ps) = blocksFrom d index (start + byteSize s) ps := by
  have hraw : (s.map Piece.char).flatMap Piece.raw = s := by
    simp [List.flatMap_map, Piece.raw]
  rw [blocksFrom_append, blocksFrom_eq_nil_iff.2 (by simp), hraw]
  rfl

/-- A text has no block exactly if no suffix of it begins with a fence. -/
theorem blocks_eq_nil_iff {s : Text} :
    blocks d s = [] ↔ ∀ t, t <:+ s → found? d t = none := by
  rw [blocks, blocksFrom_eq_nil_iff]
  generalize hps : pieces d s = ps
  have h := scan_iff.2 hps
  clear hps
  induction h with
  | nil => simp [found?_nil]
  | char h hr ih =>
    simp only [List.mem_cons, reduceCtorEq, false_or, ih, List.suffix_cons_iff]
    constructor
    · rintro h' t (rfl | ht)
      · exact h
      · exact h' t ht
    · exact fun h' t ht => h' t (Or.inr ht)
  | fence h hr ih =>
    constructor
    · exact fun h' => absurd List.mem_cons_self (h' _)
    · intro h'
      rw [h' _ List.suffix_rfl] at h
      cases h

end DocPreview.Diagram
