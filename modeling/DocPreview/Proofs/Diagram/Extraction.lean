import DocPreview.Proofs.Diagram.Insertion
import DocPreview.Proofs.Diagram.Offset
import DocPreview.Proofs.Text.Reference

/-!
# What the blocks of a text are

The blocks of a text are told by its characters, without a scan. Each block is an opening line, a
source and the first closing behind them, which takes a carriage return in front of it; blocks are
numbered, in order and apart from each other; and an opening line that begins in no block stands
behind the last one and has no closing behind it, so no block is missed. One list of blocks has
these properties, and it is what `blocks` gives.

## Main definitions

* `IsClosedBy`: a source and its closing.
* `IsExtraction`: the blocks of a text.

## Main results

* `source?_append_iff`: the source that is read is the one with the first closing.
* `exists_fence_of_mem_blocks`: a block is a fence as it is found.
* `blocks_eq_iff_isExtraction`: a text has exactly one list of blocks, which `blocks` computes.
-/

namespace DocPreview.Diagram

open Text

variable {d : Dialect} {s a e o r w x y : Text} {bs : List Block} {b : Block} {ps : List Piece}
  {index start : Nat}

/-! ### Closings -/

/-- The closing `e` is the first one behind a source: closing characters stand in both only at the
end, and a carriage return before them is part of the closing. -/
structure IsClosedBy (a e : Text) : Prop where
  isClosing : IsClosing e
  shortest : ∀ x y, a ++ e = x ++ (closing ++ y) → y = []
  lineBreak : e = closing → a.getLast? ≠ some '\r'

/-- A closing is the closing characters, with or without a carriage return before them. -/
theorem IsClosing.cases (h : IsClosing e) : e = closing ∨ e = '\r' :: closing := by
  obtain ⟨b, rfl | rfl, rfl⟩ := h
  · exact Or.inl rfl
  · exact Or.inr rfl

/-- Closing characters in a closing are at its end. -/
theorem IsClosing.eq_nil_of_eq_append (h : IsClosing e) (heq : e = x ++ (closing ++ y)) :
    y = [] := by
  have hlength := congrArg List.length heq
  simp only [List.length_append] at hlength
  rcases h.cases with rfl | rfl
  · exact List.length_eq_zero_iff.1 (by omega)
  · cases x with
    | nil => exact absurd (List.cons.inj heq).1 (by decide)
    | cons c x =>
      rw [List.length_cons, List.length_cons] at hlength
      exact List.length_eq_zero_iff.1 (by omega)

/-- A closing is part of another one only behind its carriage return. -/
theorem IsClosing.eq_cr_of_append (h : IsClosing (y ++ e)) (he : IsClosing e)
    (hy : y ≠ []) : y = ['\r'] ∧ e = closing := by
  have hpos := List.length_pos_iff.2 hy
  have hlength := h.cases.imp (congrArg List.length) (congrArg List.length)
  simp only [List.length_append, List.length_cons] at hlength
  rcases he.cases with rfl | rfl
  · have hcr : y ++ closing = ['\r'] ++ closing :=
      h.cases.resolve_left fun heq => by
        have := congrArg List.length heq
        rw [List.length_append] at this
        omega
    exact ⟨List.append_cancel_right hcr, rfl⟩
  · rw [List.length_cons] at hlength
    omega

/-- The source that is read is the one with the first closing behind it. -/
theorem source?_append_iff : source? (a ++ (e ++ r)) = some (a, e, r) ↔ IsClosedBy a e := by
  rw [source?_eq_some_iff]
  constructor
  · rintro ⟨-, he, hfirst⟩
    refine ⟨he, fun x y heq => ?_, fun hclosing hcr => ?_⟩
    · rcases List.append_eq_append_iff.1 heq with ⟨t, rfl, ht⟩ | ⟨t, rfl, ht⟩
      · exact he.eq_nil_of_eq_append ht
      · by_cases hne : t = []
        · exact he.eq_nil_of_eq_append (x := []) (by rw [ht, hne]; rfl)
        · have hnone := closing?_eq_none_iff.1 (hfirst t (List.suffix_append x t) hne) closing
            isClosing_closing
          exact absurd ⟨y ++ r, by rw [← List.append_assoc, ht, List.append_assoc]⟩ hnone
    · obtain ⟨t, rfl⟩ := List.getLast?_eq_some_iff.1 hcr
      have hnone := closing?_eq_none_iff.1 (hfirst ['\r'] (List.suffix_append t ['\r']) (by simp))
        ('\r' :: closing) ⟨['\r', '\n'], Or.inr rfl, rfl⟩
      exact absurd ⟨r, by rw [hclosing]; rfl⟩ hnone
  · rintro ⟨he, hshortest, hcr⟩
    refine ⟨rfl, he, fun y ⟨x, hx⟩ hne => closing?_eq_none_iff.2 fun e' he' hpre => ?_⟩
    -- A closing that begins in the source ends where `e` does, so it is `e` behind `\r`.
    have heq : e' = y ++ e := by
      rw [← List.append_assoc] at hpre
      rcases List.prefix_or_prefix_of_prefix hpre (List.prefix_append (y ++ e) r) with
        ⟨t, ht⟩ | ⟨t, ht⟩
      · obtain ⟨z, hz⟩ := he'.closing_suffix
        have hnil := hshortest (x ++ z) t (by
          rw [← hx, List.append_assoc, ← ht, ← hz]
          simp only [List.append_assoc])
        rw [← ht, hnil, List.append_nil]
      · obtain ⟨z, hz⟩ := he.closing_suffix
        have hnil := he'.eq_nil_of_eq_append (x := y ++ z) (y := t) (by
          rw [← ht, ← hz]
          simp only [List.append_assoc])
        rw [← ht, hnil, List.append_nil]
    obtain ⟨rfl, hclosing⟩ := (heq ▸ he').eq_cr_of_append he hne
    exact hcr hclosing (by rw [← hx, List.getLast?_append]; rfl)

/-! ### Fences -/

/-- A text begins with the fence of these parts exactly if they are an opening line, a source and
its closing. -/
theorem found?_append_iff : found? d (o ++ (a ++ (e ++ r))) = some (⟨o, a, e⟩, r) ↔
    IsOpening d o ∧ IsClosedBy a e := by
  rw [found?_eq_some_iff, source?_append_iff]
  simp

/-- The fence among pieces that a block comes from. -/
theorem exists_pieces_of_mem_blocksFrom (h : b ∈ blocksFrom d index start ps) :
    ∃ qs f rs i, ps = qs ++ .fence f :: rs ∧
      b = ⟨d, f.source, f.matched, i, start + byteSize (qs.flatMap Piece.raw)⟩ := by
  induction ps generalizing index start with
  | nil => cases h
  | cons p ps ih =>
    cases p with
    | char c =>
      obtain ⟨qs, f, rs, i, rfl, rfl⟩ := ih h
      refine ⟨.char c :: qs, f, rs, i, rfl, ?_⟩
      rw [List.flatMap_cons, byteSize_append, ← Nat.add_assoc]
      rfl
    | fence g =>
      rcases List.mem_cons.1 h with rfl | h
      · exact ⟨[], g, ps, index, rfl, rfl⟩
      · obtain ⟨qs, f, rs, i, rfl, rfl⟩ := ih h
        refine ⟨.fence g :: qs, f, rs, i, rfl, ?_⟩
        rw [List.flatMap_cons, byteSize_append, ← Nat.add_assoc]
        rfl

/-- What is found at a piece that is a fence. -/
theorem Scan.found?_eq_some {f : Found} (h : Scan d s (.fence f :: ps)) :
    found? d s = some (f, ps.flatMap Piece.raw) := by
  cases h with
  | fence hfound hrest => rw [hfound, hrest.flatMap_raw]

/-- A block is written where it begins, and it is a fence as it is found. -/
theorem exists_fence_of_mem_blocks (h : b ∈ blocks d s) : ∃ p o e r,
    s = p ++ (b.matched ++ r) ∧ b.start = byteSize p ∧ b.matched = o ++ (b.source ++ e) ∧
      IsOpening d o ∧ IsClosedBy b.source e := by
  obtain ⟨qs, ⟨o, a, e⟩, rs, i, hps, rfl⟩ := exists_pieces_of_mem_blocksFrom h
  have hscan := hps ▸ scan_pieces d s
  have hraw := hscan.flatMap_raw
  rw [List.flatMap_append, List.flatMap_cons] at hraw
  obtain ⟨ho, -, hsource⟩ := found?_eq_some_iff.1 hscan.of_append.found?_eq_some
  exact ⟨_, o, e, _, hraw.symm, Nat.zero_add _, List.append_assoc o a e, ho,
    source?_append_iff.1 hsource⟩

/-! ### Places in a text -/

/-- A place in the text of pieces is a character or lies in a block. -/
theorem exists_char_or_mem_blocksFrom (index start : Nat) (hps : ps.flatMap Piece.raw = x ++ w)
    (hw : w ≠ []) : (∃ qs c rs, ps = qs ++ .char c :: rs ∧ x = qs.flatMap Piece.raw) ∨
      ∃ b ∈ blocksFrom d index start ps, b.start ≤ start + byteSize x ∧
        start + byteSize x < b.stop := by
  obtain ⟨c, w, rfl⟩ := List.exists_cons_of_ne_nil hw
  rw [List.flatMap_def] at hps
  obtain ⟨qs', u, v, rs', hmap, rfl, -⟩ := exists_piece_of_flatten_eq hps
  obtain ⟨qs, ps', rfl, rfl, hpiece⟩ := List.map_eq_append_iff.1 hmap
  obtain ⟨p, rs, rfl, hp, -⟩ := List.map_eq_cons_iff.1 hpiece
  rw [← List.flatMap_def]
  cases p with
  | char e =>
    obtain rfl : u = [] := by
      have hlength := congrArg List.length hp
      simp only [Piece.raw, List.length_append, List.length_cons, List.length_nil] at hlength
      exact List.length_eq_zero_iff.1 (by omega)
    exact Or.inl ⟨qs, e, rs, rfl, List.append_nil _⟩
  | fence f =>
    have hsize : byteSize f.matched = byteSize u + byteSize (c :: v) := by
      rw [← byteSize_append, ← hp]
      rfl
    have hc := c.utf8Size_pos
    rw [byteSize_cons] at hsize
    refine Or.inr ⟨_, by rw [blocksFrom_append]; exact List.mem_append_right _ List.mem_cons_self,
      ?_, ?_⟩
    · simp only [byteSize_append]
      omega
    · simp only [Block.stop, byteSize_append]
      omega

/-- An opening line that begins in no block stands behind all of them and has no closing behind
it. -/
theorem stop_le_of_opening (ho : IsOpening d o) (hs : s = x ++ (o ++ y))
    (houtside : ∀ b ∈ blocks d s, ¬ (b.start ≤ byteSize x ∧ byteSize x < b.stop)) :
    (∀ b ∈ blocks d s, b.stop ≤ byteSize x) ∧ ¬ closing <:+: y := by
  have hscan := scan_pieces d s
  rw [blocks] at houtside ⊢
  generalize pieces d s = ps at hscan houtside
  have hraw := hscan.flatMap_raw
  rw [hs] at hraw
  rcases exists_char_or_mem_blocksFrom (d := d) 0 0 hraw (by simp [ho.ne_nil]) with
    ⟨qs, c, rs, rfl, rfl⟩ | ⟨b, hb, hspan⟩
  · rw [List.flatMap_append, List.append_cancel_left_eq] at hraw
    have hnone : found? d (o ++ y) = none := by
      rw [← hraw]
      exact hscan.found?_eq_none (List.suffix_append ..)
    have hopen := found?_eq_none_iff.1 hnone o y ho rfl
    -- Behind the opening line there are no closing characters, so no fence either.
    have hchars : Piece.char c :: rs = (o ++ y).map Piece.char := by
      rw [← hraw]
      exact hscan.of_append.eq_map_char fun t ht =>
        found?_eq_none_of_opening ho hopen (hraw ▸ ht)
    refine ⟨fun b hb => ?_, hopen⟩
    rw [hchars, blocksFrom_append, List.mem_append] at hb
    rcases hb with hb | hb
    · have hspan := (span_of_mem_blocksFrom hb).2
      rwa [Nat.zero_add] at hspan
    · rw [blocksFrom_eq_nil_iff.2 (by simp)] at hb
      cases hb
  · rw [Nat.zero_add] at hspan
    exact absurd hspan (houtside b hb)

/-! ### Extractions -/

/-- The blocks of a text. They are numbered and in order, each is an opening line with a source and
its closing at its place in the text, and an opening line that begins in none of them stands behind
all of them and has no closing behind it. -/
structure IsExtraction (d : Dialect) (s : Text) (bs : List Block) : Prop where
  numbered : bs.map Block.index = List.range bs.length
  ordered : bs.Pairwise fun a b => a.stop ≤ b.start
  written : ∀ b ∈ bs, b.dialect = d ∧ slice? s b.start b.stop = some b.matched
  fence : ∀ b ∈ bs, ∃ o e, IsOpening d o ∧ IsClosedBy b.source e ∧
    b.matched = o ++ (b.source ++ e)
  complete : ∀ x o y, IsOpening d o → s = x ++ (o ++ y) →
    (∀ b ∈ bs, ¬ (b.start ≤ byteSize x ∧ byteSize x < b.stop)) →
      (∀ b ∈ bs, b.stop ≤ byteSize x) ∧ ¬ closing <:+: y

/-- The blocks that are found are an extraction. -/
theorem isExtraction_blocks (d : Dialect) (s : Text) : IsExtraction d s (blocks d s) where
  numbered := map_index_blocks d s
  ordered := pairwise_blocks d s
  written b hb := by
    obtain ⟨p, o, e, r, hs, hstart, -⟩ := exists_fence_of_mem_blocks hb
    refine ⟨dialect_of_mem_blocks hb, ?_⟩
    rw [hs, Block.stop, hstart, slice?_append]
  fence b hb := by
    obtain ⟨p, o, e, r, -, -, hmatched, ho, he⟩ := exists_fence_of_mem_blocks hb
    exact ⟨o, e, ho, he, hmatched⟩
  complete x o y ho hs := stop_le_of_opening ho hs

/-- The first block of an extraction that does not begin before a place of the text stands behind a
gap, and it is the fence that is found there. -/
theorem IsExtraction.exists_place (h : IsExtraction d s bs) {pre post : List Block}
    (hbs : bs = pre ++ b :: post) (hs : s = a ++ w) (hstart : byteSize a ≤ b.start) :
    ∃ g o e r, w = g ++ (b.matched ++ r) ∧
      b = ⟨d, b.source, b.matched, pre.length, byteSize a + byteSize g⟩ ∧
      Found.matched ⟨o, b.source, e⟩ = b.matched ∧
      found? d (b.matched ++ r) = some (⟨o, b.source, e⟩, r) := by
  have hmem : b ∈ bs := by simp [hbs]
  obtain ⟨hdialect, hslice⟩ := h.written b hmem
  obtain ⟨o, e, ho, he, hmatched⟩ := h.fence b hmem
  obtain ⟨p, r, hp, hplace, -⟩ := slice?_eq_some_iff.1 hslice
  obtain ⟨g, rfl, rfl⟩ := exists_append_of_byteSize_le (hs.symm.trans hp) (hplace ▸ hstart)
  rw [byteSize_append] at hplace
  have hindex : b.index = pre.length := by
    have hnumbered := congrArg (fun is => is[pre.length]?) h.numbered
    simpa [hbs] using hnumbered
  refine ⟨g, o, e, r, rfl, ?_, ?_, ?_⟩
  · rw [← hdialect, ← hindex, ← hplace]
  · rw [hmatched, Found.matched, List.append_assoc]
  · rw [hmatched, List.append_assoc, List.append_assoc]
    exact found?_append_iff.2 ⟨ho, he⟩

section

variable (h : IsExtraction d s bs) {pre post : List Block} (hbs : bs = pre ++ post)
  (hpre : ∀ b ∈ pre, b.stop ≤ byteSize a)

include h hbs hpre

/-- No fence begins between the blocks of an extraction. -/
theorem IsExtraction.found?_eq_none {g : Text} (hs : s = a ++ (g ++ w))
    (hpost : ∀ b ∈ post, byteSize a + byteSize g ≤ b.start) (hy : y <:+ g) (hne : y ≠ []) :
    found? d (y ++ w) = none := by
  obtain ⟨x, rfl⟩ := hy
  have hpos : 0 < byteSize y := by
    obtain ⟨c, y, rfl⟩ := List.exists_cons_of_ne_nil hne
    exact Nat.add_pos_left c.utf8Size_pos _
  have hplace : s = (a ++ x) ++ (y ++ w) := by simp only [hs, List.append_assoc]
  refine found?_eq_none_iff.2 fun o inner ho hinner => ?_
  refine (h.complete (a ++ x) o inner ho (hinner ▸ hplace) fun b hb hspan => ?_).2
  rw [byteSize_append] at hspan
  rcases List.mem_append.1 (hbs ▸ hb) with hb | hb
  · have := hpre b hb
    omega
  · have := hpost b hb
    rw [byteSize_append] at this
    omega

/-- A text is scanned from the end of some blocks of an extraction on as the blocks that are left
and the characters between them. -/
theorem IsExtraction.exists_scan (hs : s = a ++ w) (hpost : ∀ b ∈ post, byteSize a ≤ b.start) :
    ∃ ps, Scan d w ps ∧ blocksFrom d pre.length (byteSize a) ps = post := by
  induction post generalizing pre a w with
  | nil =>
    have hscan := Scan.map_char_append (d := d) (s := w) .nil fun y =>
      h.found?_eq_none hbs hpre (by rw [hs, List.append_nil]) (by simp)
    rw [List.append_nil, List.append_nil] at hscan
    exact ⟨_, hscan, blocksFrom_eq_nil_iff.2 (by simp)⟩
  | cons b post ih =>
    obtain ⟨g, o, e, r, rfl, hb, hmatched, hfound⟩ :=
      h.exists_place hbs hs (hpost b List.mem_cons_self)
    have hstart : b.start = byteSize a + byteSize g := congrArg Block.start hb
    have hstop : b.stop = byteSize (a ++ g ++ b.matched) := by
      rw [Block.stop, hstart, byteSize_append, byteSize_append]
    have hbehind : ∀ c ∈ post, b.stop ≤ c.start :=
      (List.pairwise_cons.1 (List.pairwise_append.1 (hbs ▸ h.ordered)).2.1).1
    have hbefore : ∀ c ∈ pre ++ [b], c.stop ≤ byteSize (a ++ g ++ b.matched) := by
      refine List.forall_mem_append.2 ⟨fun c hc => ?_, List.forall_mem_singleton.2 hstop.le⟩
      have := hpre c hc
      simp only [byteSize_append]
      omega
    have hgap : ∀ c ∈ b :: post, byteSize a + byteSize g ≤ c.start := by
      have hle : b.start ≤ b.stop := Nat.le_add_right b.start _
      exact List.forall_mem_cons.2
        ⟨hstart.ge, fun c hc => (hstart.ge.trans hle).trans (hbehind c hc)⟩
    have hrest : s = (a ++ g ++ b.matched) ++ r := by
      simp only [hs, List.append_assoc]
    -- The blocks behind `b` are scanned from its end on.
    obtain ⟨ps, hscan, hblocks⟩ := ih (List.append_cons pre b post ▸ hbs) hbefore hrest
      (hstop ▸ hbehind)
    refine ⟨_, (Scan.fence hfound hscan).map_char_append fun y =>
      h.found?_eq_none hbs hpre hs hgap, ?_⟩
    rw [List.length_append, List.length_singleton, byteSize_append, byteSize_append] at hblocks
    rw [blocksFrom_map_char_append, blocksFrom, hmatched, hblocks, ← hb]

end

/-- A text has exactly one extraction. -/
theorem blocks_eq_iff_isExtraction (d : Dialect) (s : Text) (bs : List Block) :
    blocks d s = bs ↔ IsExtraction d s bs := by
  constructor
  · rintro rfl
    exact isExtraction_blocks d s
  · intro h
    have hall : bs = [] ++ bs := rfl
    obtain ⟨ps, hscan, hblocks⟩ := h.exists_scan (a := []) hall (by simp) rfl
      fun b _ => Nat.zero_le _
    rw [← hblocks, blocks, scan_iff.1 hscan]
    rfl

end DocPreview.Diagram
