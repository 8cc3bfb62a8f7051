import DocPreview.Diagram.Substitution
import DocPreview.Proofs.Diagram.Scan
import Mathlib.Data.List.Nodup
import Std.Data.String.ToNat

/-!
# What a pass does to the blocks of a text

A pass asks the renderer once for each block, and the text it leaves has the gaps of the text with
one fragment for each block between them. The ids of the blocks count from zero, so no two of them
are equal, and every block is found in exactly one of the two lists that the pass returns.

## Main definitions

* `Block.shown`: what stands in the place of a block after a pass.
* `Replaces`: what a pass has to do.

## Main results

* `substitute_eq`: a pass in terms of the blocks, without effects.
* `substituteIn_eq`: passes one after the other.
* `substitute_replaces_blocks`: every pass does what it has to do, and the ids of both passes over a
  document are distinct.
-/

namespace DocPreview.Diagram

open Text

variable (render : Renderer) (d : Dialect) (text : Text)

/-- What stands in the place of a block after a pass. -/
def Block.shown (b : Block) : Text := fragment b.dialect b.id (render b.dialect b.source)

/-! ### A pass without effects -/

section State

variable {σ α β : Type}

private theorem run_bind (x : StateM σ α) (f : α → StateM σ β) (s : σ) :
    (x >>= f).run s = (f (x.run s).1).run (x.run s).2 := rfl

private theorem run_pure (a : α) (s : σ) : (pure a : StateM σ α).run s = (a, s) := rfl

end State

/-- Asking for each block of a list leaves one request for each, in order. -/
theorem run_mapM_recorded (bs : List Block) (log : List Request) :
    (bs.mapM fun b => render.recorded d b.source).run log =
      (bs.map fun b => render d b.source, log ++ bs.map fun b => ⟨d, b.source⟩) := by
  induction bs generalizing log with
  | nil => rw [List.mapM_nil, run_pure, List.map_nil, List.map_nil, List.append_nil]
  | cons b bs ih =>
    have hb : (render.recorded d b.source).run log =
        (render d b.source, log ++ [⟨d, b.source⟩]) := rfl
    rw [List.mapM_cons, run_bind, hb, run_bind, ih, run_pure, List.append_assoc]
    rfl

theorem run_passWith_recorded (log : List Request) :
    (passWith render.recorded d text).run log =
      (.ofSettled text ((blocks d text).map fun b => ⟨b, render d b.source⟩),
        log ++ (blocks d text).map fun b => ⟨d, b.source⟩) := by
  have hzip (bs : List Block) : bs.zipWith Settled.mk (bs.map fun b => render d b.source) =
      bs.map fun b => ⟨b, render d b.source⟩ := by
    rw [List.zipWith_map_right, List.zipWith_self]
  simp only [passWith]
  cases hbs : blocks d text with
  | nil =>
    rw [List.isEmpty_nil, if_pos rfl, run_pure, List.map_nil, List.map_nil, List.append_nil]
    simp [Pass.unchanged, Pass.ofSettled, splice, spliceFrom]
  | cons b bs =>
    rw [List.isEmpty_cons, if_neg Bool.false_ne_true, run_bind, run_mapM_recorded, run_pure, hzip]

/-- A pass settles each block by the answer of the renderer. -/
theorem substitute_eq : substitute render d text =
    { Pass.ofSettled text ((blocks d text).map fun b => ⟨b, render d b.source⟩) with
      requests := (blocks d text).map fun b => ⟨d, b.source⟩ } := by
  rw [substitute, Substitution.ofRun, run_passWith_recorded, List.nil_append]

/-- A substitution with the outcomes of another one, which was made in its text. -/
def Substitution.followedBy (s t : Substitution) : Substitution :=
  { s.toPass.andThen t.toPass with requests := s.requests ++ t.requests }

@[simp] theorem Substitution.text_followedBy (s t : Substitution) :
    (s.followedBy t).text = t.text := rfl

@[simp] theorem Substitution.rendered_followedBy (s t : Substitution) :
    (s.followedBy t).rendered = s.rendered ++ t.rendered := rfl

@[simp] theorem Substitution.failed_followedBy (s t : Substitution) :
    (s.followedBy t).failed = s.failed ++ t.failed := rfl

@[simp] theorem Substitution.requests_followedBy (s t : Substitution) :
    (s.followedBy t).requests = s.requests ++ t.requests := rfl

theorem run_foldlM_recorded (order : List Dialect) (s : Substitution) :
    (order.foldlM (fun (p : Pass) d => return p.andThen (← passWith render.recorded d p.text))
      s.toPass).run s.requests =
      let t := order.foldl (fun s d => s.followedBy (substitute render d s.text)) s
      (t.toPass, t.requests) := by
  induction order generalizing s with
  | nil => rfl
  | cons d order ih =>
    rw [List.foldlM_cons, List.foldl_cons, ← ih, substitute_eq, run_bind, run_bind,
      run_passWith_recorded, run_pure]
    rfl

/-- Passes for several dialects are passes one after the other. -/
theorem substituteIn_eq (order : List Dialect) : substituteIn render order text =
    order.foldl (fun s d => s.followedBy (substitute render d s.text)) (.unchanged text) := by
  have h := run_foldlM_recorded render order (.unchanged text)
  have hrun : (passesWith render.recorded order text).run [] = _ := h
  rw [substituteIn, Substitution.ofRun, hrun]

/-- The passes over a document are the PlantUML pass and the Mermaid pass over what it leaves. -/
theorem substituteAll_eq : substituteAll render text =
    (substitute render .plantUml text).followedBy
      (substitute render .mermaid (substitute render .plantUml text).text) := by
  rw [substituteAll, substituteIn_eq]
  simp only [Dialect.all, List.foldl_cons, List.foldl_nil, Substitution.unchanged,
    Substitution.followedBy, Pass.andThen, Pass.unchanged, List.nil_append]

/-! ### The text -/

variable {d}

theorem replacements_modifyHead (c : Char) (start : Nat) {gs : List Text} (hgs : gs ≠ [])
    (ps : List (Text × Text)) :
    replacements start (gs.modifyHead (c :: ·)) ps = replacements (start + c.utf8Size) gs ps := by
  obtain ⟨g, gs, rfl⟩ := List.exists_cons_of_ne_nil hgs
  cases ps with
  | nil => rfl
  | cons p ps => simp only [List.modifyHead_cons, replacements, byteSize_cons, Nat.add_assoc]

/-- The blocks are at the spans of the parts between the gaps. -/
theorem map_replacement_blocksFrom (index start : Nat) (ps : List Piece) :
    (blocksFrom d index start ps).map
        (fun b => (Settled.mk b (render d b.source)).replacement) =
      replacements start (gapsOf ps)
        ((blocksFrom d index start ps).map fun b => (b.matched, b.shown render)) := by
  induction ps generalizing index start with
  | nil => rfl
  | cons p ps ih =>
    cases p with
    | char c =>
      rw [blocksFrom, gapsOf, replacements_modifyHead c start (gapsOf_ne_nil ps)]
      exact ih index (start + c.utf8Size)
    | fence f =>
      simp only [blocksFrom, gapsOf, List.map_cons, replacements, ih, byteSize_nil, Nat.add_zero]
      rfl

variable (d)

/-- A pass puts its fragments between the gaps of the text. -/
theorem text_substitute : (substitute render d text).text =
    interleave (gaps d text) ((blocks d text).map (Block.shown render)) := by
  let parts := (blocks d text).map fun b => (b.matched, b.shown render)
  have hlen : (gaps d text).length = parts.length + 1 := by
    rw [length_gaps, List.length_map]
  have hrs : (blocks d text).map (fun b => (Settled.mk b (render d b.source)).replacement) =
      replacements 0 (gaps d text) parts := map_replacement_blocksFrom render 0 0 (pieces d text)
  have hold : interleave (gaps d text) (parts.map Prod.fst) = text := by
    rw [List.map_map]
    exact interleave_gaps_blocks d text
  have hnew : parts.map Prod.snd = (blocks d text).map (Block.shown render) := by
    rw [List.map_map]
    rfl
  have h := splice_interleave (gaps d text) parts hlen
  rw [hold, ← hrs, hnew] at h
  rw [substitute_eq]
  simp only [Pass.ofSettled, List.map_map]
  exact h

/-! ### Places and ids -/

/-- A block starts where the gaps and blocks before it end. -/
theorem start_getElem_blocksFrom (index start k : Nat) (ps : List Piece)
    (h : k < (blocksFrom d index start ps).length) :
    (blocksFrom d index start ps)[k].start = start + byteSize (interleave
      ((gapsOf ps).take (k + 1)) (((blocksFrom d index start ps).take k).map Block.matched)) := by
  induction ps generalizing index start k with
  | nil => simp [blocksFrom] at h
  | cons p ps ih =>
    cases p with
    | char c =>
      simp only [blocksFrom] at h ⊢
      obtain ⟨g, gs, hg⟩ := List.exists_cons_of_ne_nil (gapsOf_ne_nil ps)
      rw [ih index _ k h, gapsOf, hg, List.modifyHead_cons, List.take_succ_cons,
        List.take_succ_cons]
      have hc := interleave_modifyHead c (List.cons_ne_nil g (gs.take k))
        (((blocksFrom d index (start + c.utf8Size) ps).take k).map Block.matched)
      rw [List.modifyHead_cons] at hc
      rw [hc, byteSize_cons, Nat.add_assoc]
    | fence f =>
      cases k with
      | zero => simp [blocksFrom, gapsOf]
      | succ k =>
        simp only [blocksFrom, List.getElem_cons_succ, List.length_cons] at h ⊢
        rw [ih (index + 1) _ k (by omega), gapsOf, List.take_succ_cons, List.take_succ_cons,
          List.map_cons, interleave_cons, List.nil_append, byteSize_append, Nat.add_assoc]

theorem start_getElem_blocks (k : Nat) (h : k < (blocks d text).length) :
    (blocks d text)[k].start = byteSize (interleave ((gaps d text).take (k + 1))
      (((blocks d text).take k).map Block.matched)) := by
  have := start_getElem_blocksFrom d 0 0 k (pieces d text) h
  rwa [Nat.zero_add] at this

/-- Different numbers give different ids. -/
theorem diagramId_injective : Function.Injective (diagramId d) := by
  intro i j h
  exact Nat.repr_injective ((String.append_right_inj _).1 h)

/-- Ids of different dialects are different. -/
theorem diagramId_ne (i j : Nat) : diagramId .plantUml i ≠ diagramId .mermaid j := by
  intro h
  have := congrArg (fun s : String => s.toList.head?) h
  simp [diagramId, Dialect.idStart, Dialect.label] at this

/-- The ids of the blocks count from zero. -/
theorem map_id_blocks :
    (blocks d text).map Block.id = (List.range (blocks d text).length).map (diagramId d) := by
  rw [← map_index_blocks, List.map_map]
  exact List.map_congr_left fun b hb => by rw [Block.id, dialect_of_mem_blocks hb, Function.comp]

theorem nodup_map_id_blocks : ((blocks d text).map Block.id).Nodup := by
  rw [map_id_blocks]
  exact List.nodup_range.map (diagramId_injective d)

/-! ### The two lists of outcomes -/

namespace Settled

theorem rendered?_eq_some_iff {s : Settled} {r : Rendered} :
    s.rendered? = some r ↔ s.outcome = .ok r.svg ∧ s.block.id = r.id := by
  obtain ⟨id, svg⟩ := r
  cases h : s.outcome <;> simp [rendered?, h, and_comm]

theorem failed?_eq_some_iff {s : Settled} {f : Failed} :
    s.failed? = some f ↔ s.outcome = .error f.failure ∧ s.block.id = f.id := by
  obtain ⟨id, failure⟩ := f
  cases h : s.outcome <;> simp [failed?, h, and_comm]

/-- Every block is in one of the two lists. -/
theorem perm_ids (bs : List Settled) :
    ((bs.filterMap rendered?).map Rendered.id ++ (bs.filterMap failed?).map Failed.id).Perm
      (bs.map fun s => s.block.id) := by
  induction bs with
  | nil => exact .nil
  | cons s bs ih =>
    cases h : s.outcome with
    | ok svg => simpa [List.filterMap_cons, rendered?, failed?, h] using ih
    | error e =>
      simpa [List.filterMap_cons, rendered?, failed?, h] using List.perm_middle.trans (ih.cons _)

/-- What is taken from some of the blocks is in the order of the blocks. -/
theorem sublist_ids {α : Type} {f : Settled → Option α} {id : α → String}
    (hf : ∀ s a, f s = some a → s.block.id = id a) (bs : List Settled) :
    ((bs.filterMap f).map id).Sublist (bs.map fun s => s.block.id) := by
  induction bs with
  | nil => exact .slnil
  | cons s bs ih =>
    cases h : f s with
    | none =>
      rw [List.filterMap_cons_none h]
      exact ih.cons _
    | some a =>
      rw [List.filterMap_cons_some h, List.map_cons, List.map_cons, hf s a h]
      exact ih.cons_cons _

end Settled

theorem rendered_substitute : (substitute render d text).rendered =
    ((blocks d text).map fun b => Settled.mk b (render d b.source)).filterMap
      Settled.rendered? := by
  rw [substitute_eq]
  rfl

theorem failed_substitute : (substitute render d text).failed =
    ((blocks d text).map fun b => Settled.mk b (render d b.source)).filterMap Settled.failed? := by
  rw [substitute_eq]
  rfl

theorem map_id_settled :
    ((blocks d text).map fun b => Settled.mk b (render d b.source)).map (fun s => s.block.id) =
      (blocks d text).map Block.id := by
  rw [List.map_map]
  rfl

/-- The ids of both lists are those of the blocks. -/
theorem perm_ids_substitute :
    ((substitute render d text).rendered.map Rendered.id ++
      (substitute render d text).failed.map Failed.id).Perm ((blocks d text).map Block.id) := by
  rw [rendered_substitute, failed_substitute, ← map_id_settled render d text]
  exact Settled.perm_ids _

/-- Since the ids of blocks are distinct, what is taken with the id of a block is taken from that
block. -/
theorem mem_filterMap_settled_iff {α : Type} {f : Settled → Option α} {a : α} {b : Block}
    {outcome : Except Failure String}
    (hf : ∀ s : Settled, f s = some a ↔ s.outcome = outcome ∧ s.block.id = b.id)
    (hb : b ∈ blocks d text) :
    a ∈ ((blocks d text).map fun b => Settled.mk b (render d b.source)).filterMap f ↔
      render d b.source = outcome := by
  rw [List.mem_filterMap]
  constructor
  · rintro ⟨s, hs, h⟩
    obtain ⟨b', hb', rfl⟩ := List.mem_map.1 hs
    obtain ⟨houtcome, hid⟩ := (hf _).1 h
    rwa [List.inj_on_of_nodup_map (nodup_map_id_blocks d text) hb' hb hid] at houtcome
  · intro h
    exact ⟨⟨b, render d b.source⟩, List.mem_map_of_mem hb, (hf _).2 ⟨h, rfl⟩⟩

theorem mem_rendered_substitute_iff {b : Block} (hb : b ∈ blocks d text) (svg : String) :
    ⟨b.id, svg⟩ ∈ (substitute render d text).rendered ↔ render d b.source = .ok svg := by
  rw [rendered_substitute]
  exact mem_filterMap_settled_iff render d text (fun _ => Settled.rendered?_eq_some_iff) hb

theorem mem_failed_substitute_iff {b : Block} (hb : b ∈ blocks d text) (e : Failure) :
    ⟨b.id, e⟩ ∈ (substitute render d text).failed ↔ render d b.source = .error e := by
  rw [failed_substitute]
  exact mem_filterMap_settled_iff render d text (fun _ => Settled.failed?_eq_some_iff) hb

/-- Ids and outcomes of blocks depend only on the sources of the blocks. -/
theorem map_id_outcome_congr {s t : Text}
    (h : (blocks d s).map Block.source = (blocks d t).map Block.source) :
    (blocks d s).map (fun b => (b.id, render d b.source)) =
      (blocks d t).map (fun b => (b.id, render d b.source)) := by
  have hlen : (blocks d s).length = (blocks d t).length := by
    simpa only [List.length_map] using congrArg List.length h
  have hids : (blocks d s).map Block.id = (blocks d t).map Block.id := by
    rw [map_id_blocks, map_id_blocks, hlen]
  have key (bs : List Block) : bs.map (fun b => (b.id, render d b.source)) =
      (bs.map Block.id).zip ((bs.map Block.source).map (render d)) := by
    rw [List.map_map, List.zip_map']
    rfl
  rw [key, key, hids, h]

/-- The lists of a pass depend only on the sources of the blocks. -/
theorem outcomes_substitute_congr {s t : Text}
    (h : (blocks d s).map Block.source = (blocks d t).map Block.source) :
    (substitute render d s).rendered = (substitute render d t).rendered ∧
      (substitute render d s).failed = (substitute render d t).failed := by
  have key (u : Text) : (substitute render d u).rendered =
        ((blocks d u).map fun b => (b.id, render d b.source)).filterMap (fun
          | (id, .ok svg) => some ⟨id, svg⟩
          | (_, .error _) => none) ∧
      (substitute render d u).failed =
        ((blocks d u).map fun b => (b.id, render d b.source)).filterMap (fun
          | (_, .ok _) => none
          | (id, .error failure) => some ⟨id, failure⟩) := by
    rw [rendered_substitute, failed_substitute]
    simp only [List.filterMap_map]
    constructor <;> refine List.filterMap_congr fun b _ => ?_
    · cases hb : render d b.source <;> simp [Settled.rendered?, hb]
    · cases hb : render d b.source <;> simp [Settled.failed?, hb]
  rw [(key s).1, (key s).2, (key t).1, (key t).2, map_id_outcome_congr render d h]
  exact ⟨rfl, rfl⟩

/-! ### What a pass has to do -/

/-- What a pass for a dialect has to do with the blocks of a text. -/
structure Replaces (s : Substitution) : Prop where
  /-- The renderer is asked once for each block, and for nothing else. -/
  requests : s.requests = (blocks d text).map fun b => ⟨d, b.source⟩
  /-- The ids of the blocks count from zero. -/
  ids : (blocks d text).map Block.id = (List.range (blocks d text).length).map (diagramId d)
  /-- Each id is in one of the two lists, once. -/
  complete : (s.rendered.map Rendered.id ++ s.failed.map Failed.id).Perm
    ((blocks d text).map Block.id)
  /-- No two ids are equal. -/
  nodup : (s.rendered.map Rendered.id ++ s.failed.map Failed.id).Nodup
  /-- The rendered diagrams are in the order of the blocks. -/
  rendered_sublist : (s.rendered.map Rendered.id).Sublist ((blocks d text).map Block.id)
  /-- The failed diagrams are in the order of the blocks. -/
  failed_sublist : (s.failed.map Failed.id).Sublist ((blocks d text).map Block.id)
  /-- A block is among the rendered diagrams exactly with the image of its source. -/
  mem_rendered_iff : ∀ b ∈ blocks d text, ∀ svg,
    ⟨b.id, svg⟩ ∈ s.rendered ↔ render d b.source = .ok svg
  /-- A block is among the failed diagrams exactly with the failure of its source. -/
  mem_failed_iff : ∀ b ∈ blocks d text, ∀ e,
    ⟨b.id, e⟩ ∈ s.failed ↔ render d b.source = .error e
  /-- The text consists of its blocks and the gaps around them. -/
  text_eq : text = interleave (gaps d text) ((blocks d text).map Block.matched)
  /-- There is a gap before, between and after the blocks. -/
  length_gaps : (gaps d text).length = (blocks d text).length + 1
  /-- The span of a block starts where the gaps and blocks before it end. -/
  start_eq : ∀ k (h : k < (blocks d text).length), (blocks d text)[k].start =
    byteSize (interleave ((gaps d text).take (k + 1)) (((blocks d text).take k).map Block.matched))
  /-- The span of a block is as long as the block. -/
  stop_eq : ∀ b ∈ blocks d text, b.stop = b.start + byteSize b.matched
  /-- What is left has the same gaps, and the fragments of the blocks in the place of the blocks. -/
  text_replaced : s.text = interleave (gaps d text) ((blocks d text).map fun b =>
    fragment d b.id (render d b.source))

theorem replaces_substitute : Replaces render d text (substitute render d text) where
  requests := by
    rw [substitute_eq]
  ids := map_id_blocks d text
  complete := perm_ids_substitute render d text
  nodup := (perm_ids_substitute render d text).nodup_iff.2 (nodup_map_id_blocks d text)
  rendered_sublist := by
    rw [rendered_substitute, ← map_id_settled render d text]
    exact Settled.sublist_ids (fun _ _ h => (Settled.rendered?_eq_some_iff.1 h).2) _
  failed_sublist := by
    rw [failed_substitute, ← map_id_settled render d text]
    exact Settled.sublist_ids (fun _ _ h => (Settled.failed?_eq_some_iff.1 h).2) _
  mem_rendered_iff _ hb := mem_rendered_substitute_iff render d text hb
  mem_failed_iff _ hb := mem_failed_substitute_iff render d text hb
  text_eq := (interleave_gaps_blocks d text).symm
  length_gaps := length_gaps d text
  start_eq := start_getElem_blocks d text
  stop_eq _ _ := rfl
  text_replaced := by
    rw [text_substitute]
    exact congrArg _ (List.map_congr_left fun b hb => by
      rw [Block.shown, dialect_of_mem_blocks hb])

/-- Ids of blocks of different dialects are different. -/
theorem disjoint_ids (s t : Text) :
    List.Disjoint ((blocks .plantUml s).map Block.id) ((blocks .mermaid t).map Block.id) := by
  intro id hs ht
  rw [map_id_blocks] at hs ht
  obtain ⟨i, -, rfl⟩ := List.mem_map.1 hs
  obtain ⟨j, -, hj⟩ := List.mem_map.1 ht
  exact diagramId_ne i j hj.symm

/-- Each pass asks for every block of its dialect once, returns each block under its own id in
exactly one list and puts its fragment in its place, between gaps that are kept. Both passes over a
document together return distinct ids, those of PlantUML diagrams first. -/
theorem substitute_replaces_blocks (render : Renderer) (text : Text) :
    (∀ d, Replaces render d text (substitute render d text)) ∧
    let first := substitute render .plantUml text
    let second := substitute render .mermaid first.text
    let both := substituteAll render text
    both.text = second.text ∧
    both.rendered = first.rendered ++ second.rendered ∧
    both.failed = first.failed ++ second.failed ∧
    both.requests = first.requests ++ second.requests ∧
    (both.rendered.map Rendered.id ++ both.failed.map Failed.id).Nodup := by
  refine ⟨fun d => replaces_substitute render d text, ?_⟩
  intro first second both
  have hboth : both = first.followedBy second := substituteAll_eq render text
  rw [hboth]
  refine ⟨Substitution.text_followedBy .., Substitution.rendered_followedBy ..,
    Substitution.failed_followedBy .., Substitution.requests_followedBy .., ?_⟩
  have hfirst := perm_ids_substitute render .plantUml text
  have hsecond := perm_ids_substitute render .mermaid first.text
  have hids : ((first.followedBy second).rendered.map Rendered.id ++
      (first.followedBy second).failed.map Failed.id).Perm
      ((blocks .plantUml text).map Block.id ++ (blocks .mermaid first.text).map Block.id) := by
    refine List.Perm.trans ?_ (hfirst.append hsecond)
    rw [Substitution.rendered_followedBy, Substitution.failed_followedBy]
    simp only [List.map_append, List.append_assoc]
    refine List.Perm.append_left _ ?_
    rw [← List.append_assoc, ← List.append_assoc]
    exact List.perm_append_comm.append_right _
  exact hids.nodup_iff.2 ((nodup_map_id_blocks _ _).append (nodup_map_id_blocks _ _)
    (disjoint_ids text first.text))

end DocPreview.Diagram
