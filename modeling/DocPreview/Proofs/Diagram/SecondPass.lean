import DocPreview.Proofs.Diagram.Element
import DocPreview.Proofs.Diagram.Insertion

/-!
# What the second pass does to the fragments of the first one

The Mermaid pass reads the text that the PlantUML pass leaves. It cannot cut a fragment in two, but
a Mermaid fence that stands open before a fragment and finds its closing behind it takes the
fragment for a part of its source. Such a fragment is gone from the final text, and the host finds
no element for its image, unless the same characters stand elsewhere between the Mermaid blocks.

## Main definitions

* `beforeBlock`, `afterBlock`: the text of the first pass around the fragment of a block.
* `IsSwallowed`: a Mermaid fence stands open before the fragment of a block and is closed behind it.

## Main results

* `fragment_infix_iff`: a fragment occurs in the final text exactly if it occurs between the Mermaid
  blocks of the first pass's text.
* `IsInert.covered_iff`: a fragment lies in a Mermaid block exactly if one stands open before it and
  is closed behind it.
* `shown_infix_iff`: a fragment that occurs nowhere else is in the final text exactly if it is not
  swallowed.
* `second_pass_keeps_iff`: what the second pass keeps of the first one.
-/

namespace DocPreview.Diagram

open Text

variable {render : Renderer} {d : Dialect}

/-- A PlantUML fragment occurs in the text of a Mermaid pass exactly if it occurs between the
Mermaid blocks. -/
theorem fragment_infix_iff (render : Renderer) (text : Text) (j : Nat)
    (o : Except Failure String) :
    fragment .plantUml (diagramId .plantUml j) o <:+: (substitute render .mermaid text).text ↔
      ∃ g ∈ gaps .mermaid text, fragment .plantUml (diagramId .plantUml j) o <:+: g := by
  constructor
  · rw [text_substitute_eq_withFragments]
    intro h
    have hfrag : ∀ b ∈ blocks .mermaid text, ∀ w,
        ¬ fragment .plantUml (diagramId .plantUml j) o <+: b.shown render ++ w := by
      intro b hb w
      rw [Block.shown, Block.id, dialect_of_mem_blocks hb]
      exact not_fragment_prefix_append _ _ _ _ _
    exact (isElement_fragment ..).exists_mem_gapsOf hfrag h
  · rw [text_substitute]
    rintro ⟨g, hmem, h⟩
    exact h.trans (infix_interleave_of_mem hmem _)

/-! ### The place of a fragment -/

/-- The text of a pass before the fragment of block `k`. -/
def beforeBlock (render : Renderer) (d : Dialect) (text : Text) (k : Nat) : Text :=
  interleave ((gaps d text).take (k + 1)) (((blocks d text).take k).map (Block.shown render))

/-- The text of a pass after the fragment of block `k`. -/
def afterBlock (render : Renderer) (d : Dialect) (text : Text) (k : Nat) : Text :=
  interleave ((gaps d text).drop (k + 1)) (((blocks d text).drop (k + 1)).map (Block.shown render))

/-- The pieces around a block. -/
theorem exists_pieces_of_lt_length {text : Text} {k : Nat} (h : k < (blocks d text).length) :
    ∃ qs f rs stop, pieces d text = qs ++ .fence f :: rs ∧
      gaps d text = gapsOf qs ++ gapsOf rs ∧ (gapsOf qs).length = k + 1 ∧
      (blocks d text).take k = blocksFrom d 0 0 qs ∧
      (blocks d text).drop (k + 1) = blocksFrom d (k + 1) stop rs ∧
      ∃ start, (blocks d text)[k] = ⟨d, f.source, f.matched, k, start⟩ := by
  have hlt : k + 1 < (gapsOf (pieces d text)).length := by
    rw [length_gapsOf (d := d) 0 0]
    exact Nat.succ_lt_succ h
  obtain ⟨qs, f, rs, hps, hlen⟩ := exists_fence_of_lt hlt
  have hcount : (blocksFrom d 0 0 qs).length = k := by
    rw [length_gapsOf (d := d) 0 0] at hlen
    exact Nat.succ.inj hlen
  obtain ⟨start, stop, hblocks⟩ : ∃ start stop, blocks d text = blocksFrom d 0 0 qs ++
      ⟨d, f.source, f.matched, k, start⟩ :: blocksFrom d (k + 1) stop rs := by
    rw [blocks, hps, blocksFrom_append, blocksFrom, hcount, Nat.zero_add k]
    exact ⟨_, _, rfl⟩
  refine ⟨qs, f, rs, stop, hps, ?_, hlen, ?_, ?_, start, ?_⟩
  · rw [gaps, hps, gapsOf_append_fence]
  · rw [hblocks, List.take_left' hcount]
  · rw [hblocks, List.append_cons]
    exact List.drop_left' (by rw [List.length_append, hcount]; rfl)
  · simp only [hblocks, ← hcount, List.getElem_append_right le_rfl, Nat.sub_self,
      List.getElem_cons_zero]

/-- The fragment of a block stands between the text before it and the text after it. -/
theorem text_substitute_eq_append (render : Renderer) {text : Text} {k : Nat}
    (h : k < (blocks d text).length) : (substitute render d text).text =
      beforeBlock render d text k ++
        ((blocks d text)[k].shown render ++ afterBlock render d text k) := by
  obtain ⟨qs, f, rs, stop, hps, hgaps, hlen, htake, hdrop, start, hb⟩ :=
    exists_pieces_of_lt_length h
  rw [beforeBlock, afterBlock, htake, hdrop, hgaps, List.take_left' hlen, List.drop_left' hlen,
    interleave_shown, interleave_shown, text_substitute_eq_withFragments, hps,
    withFragments_append, hlen, hb, withFragments_fence, Nat.add_sub_cancel, Nat.zero_add]
  rfl

section Inert

variable {fr : Text} (hfr : IsInert fr) (s w : Text)

include hfr

/-- A pass keeps an inert text, and does with the text before it what it does with that text alone,
unless a fence stands open before it and is closed after it. -/
theorem IsInert.exists_text_substitute (render : Renderer)
    (h : ¬ (StandsOpen d s ∧ closing <:+: w)) :
    ∃ tail, (substitute render d (s ++ (fr ++ w))).text =
      (substitute render d s).text ++ (fr ++ tail) := by
  have hscan := (scan_pieces d s).append_of_not_swallowed hfr w h
  refine ⟨withFragments render d (0 + ((gapsOf (pieces d s)).length - 1)) (pieces d w), ?_⟩
  rw [text_substitute_eq_withFragments, text_substitute_eq_withFragments, scan_iff.1 hscan,
    withFragments_append, withFragments_map_char_append]

/-- A block covers an inert text exactly if a fence stands open before it and is closed after
it. -/
theorem IsInert.covered_iff : (∃ m ∈ blocks d (s ++ (fr ++ w)),
      m.start ≤ byteSize s ∧ byteSize s + byteSize fr ≤ m.stop) ↔
    StandsOpen d s ∧ closing <:+: w := by
  constructor
  · rintro ⟨m, hm, hstart, hstop⟩
    by_contra h
    have hscan := (scan_pieces d s).append_of_not_swallowed hfr w h
    have hpos : 0 < byteSize fr := by
      obtain ⟨inner, rfl⟩ := hfr.shape
      have := Char.utf8Size_pos '<'
      rw [byteSize_cons]
      omega
    -- A block stands before the inert text or after it.
    rw [blocks, scan_iff.1 hscan, blocksFrom_append, blocksFrom_append, List.mem_append,
      List.mem_append] at hm
    rcases hm with hm | hm | hm
    · have hspan := span_of_mem_blocksFrom hm
      rw [(scan_pieces d s).flatMap_raw] at hspan
      omega
    · rw [blocksFrom_eq_nil_iff.2 (by simp)] at hm
      cases hm
    · have hspan := span_of_mem_blocksFrom hm
      rw [(scan_pieces d s).flatMap_raw, List.flatMap_map] at hspan
      simp only [Piece.raw, List.flatMap_singleton'] at hspan
      omega
  · rintro ⟨ho, hc⟩
    obtain ⟨qs, f, rs, x, y, hscan, hsource, rfl⟩ :=
      (scan_pieces d s).append_of_swallowed hfr ho hc
    rw [blocks, scan_iff.1 hscan, blocksFrom_append, blocksFrom]
    refine ⟨_, List.mem_append_right _ List.mem_cons_self, ?_⟩
    simp only [Block.stop, Found.matched, hsource, byteSize_append]
    omega

/-- The gaps beside the block that covers an inert text lie before that text or after it. -/
theorem IsInert.infix_of_mem_gaps {g : Text} (hg : g ∈ gaps d (s ++ (fr ++ w)))
    (ho : StandsOpen d s) (hc : closing <:+: w) : g <:+: s ∨ g <:+: w := by
  obtain ⟨qs, f, rs, x, y, hscan, hsource, hs⟩ :=
    (scan_pieces d s).append_of_swallowed hfr ho hc
  have hw : w = y ++ (f.closed ++ rs.flatMap Piece.raw) := by
    have hraw := hscan.flatMap_raw
    rw [List.flatMap_append, List.flatMap_cons, Piece.raw, Found.matched, hsource, hs] at hraw
    simp only [List.append_assoc, List.append_cancel_left_eq] at hraw
    exact hraw.symm
  rw [gaps, scan_iff.1 hscan, gapsOf_append_fence, List.mem_append] at hg
  rcases hg with hg | hg
  · left
    rw [hs]
    exact (infix_raw_of_mem_gapsOf hg).trans (List.prefix_append ..).isInfix
  · right
    rw [hw, ← List.append_assoc]
    exact (infix_raw_of_mem_gapsOf hg).trans (List.suffix_append ..).isInfix

end Inert

/-! ### What is kept -/

/-- A Mermaid fence stands open before the fragment of PlantUML block `k` and is closed behind
it. -/
def IsSwallowed (render : Renderer) (text : Text) (k : Nat) : Prop :=
  StandsOpen .mermaid (beforeBlock render .plantUml text k) ∧
    closing <:+: afterBlock render .plantUml text k

/-- A fragment that the old text does not hold, and that differs from those of a pass, is not in the
text of the pass. -/
theorem not_infix_withFragments (start : Nat) {i k : Nat} {ps : List Piece}
    {o : Except Failure String} (hnew : ¬ fragment d (diagramId d k) o <:+: ps.flatMap Piece.raw)
    (hne : ∀ b ∈ blocksFrom d i start ps, b.shown render ≠ fragment d (diagramId d k) o) :
    ¬ fragment d (diagramId d k) o <:+: withFragments render d i ps := by
  intro h
  have hfrag : ∀ b ∈ blocksFrom d i start ps, ∀ w,
      ¬ fragment d (diagramId d k) o <+: b.shown render ++ w := by
    intro b hb w hpre
    have hdiff := hne b hb
    rw [Block.shown, Block.id, dialect_of_mem_blocksFrom hb] at hpre hdiff
    exact hdiff (fragment_eq_of_prefix_append hpre).symm
  obtain ⟨g, hg, hin⟩ := (isElement_fragment ..).exists_mem_gapsOf hfrag h
  exact hnew (hin.trans (infix_raw_of_mem_gapsOf hg))

/-- A fragment that the text does not hold, and that differs from the other ones, occurs neither
before nor after its place. -/
theorem not_infix_of_unique {text : Text} {k : Nat} (h : k < (blocks d text).length)
    (hnew : ¬ (blocks d text)[k].shown render <:+: text)
    (huniq : ∀ j (hj : j < (blocks d text).length), j ≠ k →
      (blocks d text)[j].shown render ≠ (blocks d text)[k].shown render) :
    ¬ (blocks d text)[k].shown render <:+: beforeBlock render d text k ∧
      ¬ (blocks d text)[k].shown render <:+: afterBlock render d text k := by
  obtain ⟨qs, f, rs, stop, hps, hgaps, hlen, htake, hdrop, start, hb⟩ :=
    exists_pieces_of_lt_length h
  have hself : (blocks d text)[k].shown render =
      fragment d (diagramId d k) (render d f.source) := by
    rw [hb]
    rfl
  have hraw : qs.flatMap Piece.raw ++ (f.matched ++ rs.flatMap Piece.raw) = text := by
    rw [← (scan_pieces d text).flatMap_raw, hps, List.flatMap_append, List.flatMap_cons]
    rfl
  rw [hself] at hnew huniq
  rw [hself, beforeBlock, afterBlock, htake, hdrop, hgaps, List.take_left' hlen,
    List.drop_left' hlen, interleave_shown, interleave_shown]
  constructor
  · refine not_infix_withFragments 0 (fun hold => hnew ?_) fun b hmem => ?_
    · exact hraw ▸ hold.trans (List.prefix_append ..).isInfix
    · rw [← htake, List.mem_take_iff_getElem] at hmem
      obtain ⟨j, hj, rfl⟩ := hmem
      exact huniq j (by omega) (by omega)
  · refine not_infix_withFragments stop (fun hold => hnew ?_) fun b hmem => ?_
    · rw [← List.append_assoc] at hraw
      exact hraw ▸ hold.trans (List.suffix_append ..).isInfix
    · rw [← hdrop, List.mem_drop_iff_getElem] at hmem
      obtain ⟨j, hj, rfl⟩ := hmem
      exact huniq (k + 1 + j) (by omega) (by omega)

/-- A fragment that occurs nowhere else is in the final text exactly if it is not swallowed. -/
theorem shown_infix_iff (render : Renderer) {text : Text} {k : Nat}
    (h : k < (blocks .plantUml text).length)
    (hnew : ¬ (blocks .plantUml text)[k].shown render <:+: text)
    (huniq : ∀ j (hj : j < (blocks .plantUml text).length), j ≠ k →
      (blocks .plantUml text)[j].shown render ≠ (blocks .plantUml text)[k].shown render) :
    (blocks .plantUml text)[k].shown render <:+: (substituteAll render text).text ↔
      ¬ IsSwallowed render text k := by
  obtain ⟨qs, f, rs, stop, -, -, -, -, -, start, hb⟩ := exists_pieces_of_lt_length h
  have hself : (blocks .plantUml text)[k].shown render =
      fragment .plantUml (diagramId .plantUml k) (render .plantUml f.source) := by
    rw [hb]
    rfl
  have hfr : IsInert ((blocks .plantUml text)[k].shown render) := hself ▸ isInert_fragment ..
  have htext := text_substitute_eq_append render h
  obtain ⟨hbefore, hafter⟩ := not_infix_of_unique h hnew huniq
  rw [substituteAll_eq, Substitution.text_followedBy]
  constructor
  · rintro hin ⟨ho, hc⟩
    rw [hself, fragment_infix_iff, ← hself, htext] at hin
    obtain ⟨g, hg, hin⟩ := hin
    rcases hfr.infix_of_mem_gaps _ _ hg ho hc with hg | hg
    · exact hbefore (hin.trans hg)
    · exact hafter (hin.trans hg)
  · intro hkept
    rw [htext]
    obtain ⟨tail, htail⟩ := hfr.exists_text_substitute _ _ render hkept
    rw [htail]
    exact (List.prefix_append ..).isInfix.trans (List.suffix_append ..).isInfix

/-- What holds of all that a pass reports holds of what it shows. -/
theorem forall_reported_iff (render : Renderer) (d : Dialect) (text : Text) (p : Text → Prop) :
    ((∀ r ∈ (substitute render d text).rendered, p (placeholder r.id)) ∧
        ∀ f ∈ (substitute render d text).failed, p (failureParagraph d f.failure)) ↔
      ∀ b ∈ blocks d text, p (b.shown render) := by
  constructor
  · rintro ⟨hrendered, hfailed⟩ b hb
    cases hr : render d b.source with
    | ok svg =>
      have h := hrendered ⟨b.id, svg⟩ ((mem_rendered_substitute_iff render d text hb svg).2 hr)
      rwa [Block.shown, dialect_of_mem_blocks hb, hr, fragment]
    | error e =>
      have h := hfailed ⟨b.id, e⟩ ((mem_failed_substitute_iff render d text hb e).2 hr)
      rwa [Block.shown, dialect_of_mem_blocks hb, hr, fragment]
  · intro h
    constructor
    · intro r hr
      rw [rendered_substitute, List.mem_filterMap] at hr
      obtain ⟨s, hs, hr⟩ := hr
      obtain ⟨b, hb, rfl⟩ := List.mem_map.1 hs
      obtain ⟨hok, hid⟩ := Settled.rendered?_eq_some_iff.1 hr
      have hshown := h b hb
      simp only at hok hid
      rwa [Block.shown, dialect_of_mem_blocks hb, hok, hid] at hshown
    · intro f hf
      rw [failed_substitute, List.mem_filterMap] at hf
      obtain ⟨s, hs, hf⟩ := hf
      obtain ⟨b, hb, rfl⟩ := List.mem_map.1 hs
      obtain ⟨herror, -⟩ := Settled.failed?_eq_some_iff.1 hf
      have hshown := h b hb
      simp only at herror
      rwa [Block.shown, dialect_of_mem_blocks hb, herror] at hshown

/-- The second pass keeps what the first one leaves exactly if each fragment occurs between the
Mermaid blocks of the text in between. The fragment of a block is covered by a Mermaid block exactly
if it is swallowed. If it is not, then it stays at its place behind the passed text before it; and
if it occurs nowhere else, then it is in the final text exactly if it is not swallowed. -/
theorem second_pass_keeps_iff (render : Renderer) (text : Text) :
    let first := substitute render .plantUml text
    let both := substituteAll render text
    (((∀ r ∈ first.rendered, placeholder r.id <:+: both.text) ∧
        ∀ f ∈ first.failed, failureParagraph .plantUml f.failure <:+: both.text) ↔
      ∀ b ∈ blocks .plantUml text, ∃ g ∈ gaps .mermaid first.text, b.shown render <:+: g) ∧
    ∀ k (h : k < (blocks .plantUml text).length),
      let shown := (blocks .plantUml text)[k].shown render
      let before := beforeBlock render .plantUml text k
      let after := afterBlock render .plantUml text k
      first.text = before ++ (shown ++ after) ∧
      ((∃ m ∈ blocks .mermaid first.text, m.start ≤ byteSize before ∧
          byteSize before + byteSize shown ≤ m.stop) ↔ IsSwallowed render text k) ∧
      (¬ IsSwallowed render text k →
        ∃ tail, both.text = (substitute render .mermaid before).text ++ (shown ++ tail)) ∧
      (¬ shown <:+: text →
        (∀ j (hj : j < (blocks .plantUml text).length), j ≠ k →
          (blocks .plantUml text)[j].shown render ≠ shown) →
        (shown <:+: both.text ↔ ¬ IsSwallowed render text k)) := by
  intro first both
  have hboth : both.text = (substitute render .mermaid first.text).text := by
    simp only [both, first, substituteAll_eq, Substitution.text_followedBy]
  constructor
  · rw [hboth]
    refine (forall_reported_iff render .plantUml text
      (· <:+: (substitute render .mermaid first.text).text)).trans (forall₂_congr fun b hb => ?_)
    rw [Block.shown, Block.id, dialect_of_mem_blocks hb]
    exact fragment_infix_iff render first.text ..
  · intro k h shown before after
    have htext : first.text = before ++ (shown ++ after) := text_substitute_eq_append render h
    have hfr : IsInert shown := isInert_fragment ..
    refine ⟨htext, ?_, fun hkept => ?_, shown_infix_iff render h⟩
    · rw [htext]
      exact hfr.covered_iff before after
    · rw [hboth, htext]
      exact hfr.exists_text_substitute before after render hkept

/-- A Mermaid fence that is not closed yet takes the placeholder of the diagram behind it. -/
theorem second_pass_loses_placeholder :
    let render : Renderer := fun _ _ => .ok "<svg/>"
    let text : Text := "```mermaid\nA\n\n```plantuml\nB\n```\n\n```text\nC\n```\n".toList
    (⟨"plantuml-0", "<svg/>"⟩ : Rendered) ∈ (substituteAll render text).rendered ∧
      ¬ placeholder "plantuml-0" <:+: (substituteAll render text).text := by
  intro render text
  have hfirst : (substitute render .plantUml text).text =
      "```mermaid\nA\n\n<div id=\"plantuml-0\"></div>\n\n```text\nC\n```\n".toList := by
    rw [text_substitute_eq_withFragments]
    rfl
  have hboth : (substituteAll render text).text =
      "<div id=\"mermaid-0\"></div>text\nC\n```\n".toList := by
    rw [substituteAll_eq, Substitution.text_followedBy, hfirst, text_substitute_eq_withFragments]
    rfl
  have hblock : ⟨.plantUml, "B".toList, "```plantuml\nB\n```".toList, 0, 14⟩ ∈
      blocks .plantUml text := List.mem_singleton_self _
  refine ⟨?_, ?_⟩
  · rw [substituteAll_eq]
    exact List.mem_append_left _ ((mem_rendered_substitute_iff render _ text hblock _).2 rfl)
  · rw [hboth]
    decide

end DocPreview.Diagram
