import DocPreview.Proofs.Diagram.Scan
import DocPreview.Proofs.Document.LineBreak

/-!
# Line breaks and diagrams

The reader of diagrams goes through a document by characters and takes a carriage return before a
line feed as part of the line break, so it finds the same diagrams when all line breaks of a
document are changed. A carriage return that the document already has could join a changed line
break, or be left in a source, so the document must have none.

Together with the readers of lines this says that the line breaks of a document do not matter to how
it is read.

## Main definitions

* `Found.crlf`, `Block.crlf`: a diagram fence and a block with the line breaks changed.

## Main results

* `found?_crlf`: the fence at the start of the changed text.
* `Scan.crlf`: the scan of the changed text.
* `blocks_crlf`: the blocks of the changed document, at the places of the changed text.
* `readers_crlf`: how a document is read does not depend on its line breaks.
-/

namespace DocPreview.Diagram

open Text Document

variable {d : Dialect} {s : Text}

/-! ### The fence at the start of a text -/

theorem lineBreak?_crlf (hs : '\r' ∉ s) :
    lineBreak? (crlf s) = (lineBreak? s).map (Prod.map crlf crlf) := by
  cases s with
  | nil => rfl
  | cons c s =>
    by_cases hc : c = '\n'
    · subst hc
      rfl
    · have hcr : c ≠ '\r' := by
        rintro rfl
        exact hs List.mem_cons_self
      have hnone (t : Text) : lineBreak? (c :: t) = none := by
        unfold lineBreak?
        split <;> simp_all
      rw [crlf_cons_of_ne hc, hnone, hnone]
      rfl

theorem after?_crlf {pat : Text} (hlf : '\n' ∉ pat) (hcr : '\r' ∉ pat) (s : Text) :
    after? pat (crlf s) = (after? pat s).map crlf := by
  induction pat generalizing s with
  | nil => rfl
  | cons p pat ih =>
    rw [List.mem_cons, not_or] at hlf hcr
    cases s with
    | nil => rfl
    | cons c s =>
      by_cases hc : c = '\n'
      · subst hc
        rw [crlf_cons_lf, after?, after?, if_neg (Ne.symm hcr.1), if_neg (Ne.symm hlf.1)]
        rfl
      · rw [crlf_cons_of_ne hc, after?, after?]
        split_ifs
        · exact ih hlf.2 hcr.2 s
        · rfl

theorem closing?_crlf (hs : '\r' ∉ s) :
    closing? (crlf s) = (closing? s).map (Prod.map crlf crlf) := by
  have hafter := after?_crlf (show '\n' ∉ backticks by decide) (by decide)
  rw [closing?, closing?, lineBreak?_crlf hs]
  cases lineBreak? s with
  | none => rfl
  | some p =>
    simp only [Option.map_some, Option.bind_eq_bind, Option.bind_some, Prod.map_fst, Prod.map_snd,
      hafter]
    cases after? backticks p.2 with
    | none => rfl
    | some r => simp [crlf_eq_self (s := backticks) (by decide)]

theorem source?_cons_of_some {c : Char} {e r : Text} (h : closing? (c :: s) = some (e, r)) :
    source? (c :: s) = some ([], e, r) := by
  rw [source?, h]

theorem source?_cons_of_none {c : Char} (h : closing? (c :: s) = none) :
    source? (c :: s) = (source? s).map fun (a, e, r) => (c :: a, e, r) := by
  rw [source?, h]

/-- A line feed ends a fence exactly if it does so with a carriage return before it. -/
theorem closing?_lf_eq_none_iff :
    closing? ('\n' :: s) = none ↔ closing? ('\r' :: '\n' :: s) = none := by
  simp [closing?, lineBreak?]

/-- A source ends at the same closing, before the carriage return of its line break. -/
theorem source?_crlf (hs : '\r' ∉ s) : source? (crlf s) =
    (source? s).map fun (a, e, r) => (crlf a, crlf e, crlf r) := by
  induction s with
  | nil => rfl
  | cons c s ih =>
    have hclosing := closing?_crlf hs
    have ih := ih (List.not_mem_of_not_mem_cons hs)
    cases hc : closing? (c :: s) with
    | some p =>
      rw [hc] at hclosing
      rw [source?_cons_of_some hc]
      by_cases hlf : c = '\n'
      · subst hlf
        exact source?_cons_of_some hclosing
      · rw [crlf_cons_of_ne hlf] at hclosing ⊢
        exact source?_cons_of_some hclosing
    | none =>
      rw [hc] at hclosing
      rw [source?_cons_of_none hc]
      by_cases hlf : c = '\n'
      · -- The carriage return ends no fence, so the line feed behind it ends none.
        subst hlf
        rw [crlf_cons_lf] at hclosing ⊢
        rw [source?_cons_of_none hclosing,
          source?_cons_of_none (closing?_lf_eq_none_iff.2 hclosing), ih]
        cases source? s <;> rfl
      · rw [crlf_cons_of_ne hlf] at hclosing ⊢
        rw [source?_cons_of_none hclosing, ih]
        cases source? s with
        | none => rfl
        | some q => simp [crlf_cons_of_ne hlf]

/-- A diagram fence with a carriage return before each of its line feeds. -/
def Found.crlf (f : Found) : Found :=
  ⟨Text.crlf f.opened, Text.crlf f.source, Text.crlf f.closed⟩

theorem Found.matched_crlf (f : Found) : f.crlf.matched = Text.crlf f.matched := by
  simp [Found.matched, Found.crlf]

theorem notMem_label (d : Dialect) :
    '\n' ∉ backticks ++ d.label.toList ∧ '\r' ∉ backticks ++ d.label.toList := by
  cases d <;> decide

/-- The fence that the changed text starts with. -/
theorem found?_crlf (hs : '\r' ∉ s) :
    found? d (crlf s) = (found? d s).map (Prod.map Found.crlf crlf) := by
  obtain ⟨hlf, hcr⟩ := notMem_label d
  rw [found?, found?, after?_crlf hlf hcr]
  cases hlabel : after? (backticks ++ d.label.toList) s with
  | none => rfl
  | some t =>
    have ht : '\r' ∉ t := fun h => hs (by simp [eq_append_of_after? hlabel, h])
    simp only [Option.map_some, Option.bind_eq_bind, Option.bind_some, lineBreak?_crlf ht]
    cases hbreak : lineBreak? t with
    | none => rfl
    | some p =>
      obtain ⟨b, inner⟩ := p
      obtain ⟨-, rfl⟩ := lineBreak?_eq_some_iff.1 hbreak
      have hinner : '\r' ∉ inner := fun h => ht (List.mem_append_right b h)
      simp only [Option.map_some, Option.bind_some, Prod.map_apply, source?_crlf hinner]
      cases source? inner with
      | none => rfl
      | some q =>
        have hopened : crlf (backticks ++ d.label.toList ++ b) =
            backticks ++ d.label.toList ++ crlf b := by
          rw [crlf_append, crlf_eq_self hlf]
        simp only [Option.map_some, Option.bind_some, Option.pure_def, Prod.map_apply, Found.crlf,
          hopened]

/-! ### The scan -/

/-- The pieces that a piece becomes. -/
def Piece.crlf : Piece → List Piece
  | .char c => (Text.crlf [c]).map .char
  | .fence f => [.fence f.crlf]

/-- The scan of the changed text. -/
theorem Scan.crlf {ps : List Piece} (h : Scan d s ps) (hs : '\r' ∉ s) :
    Scan d (Text.crlf s) (ps.flatMap Piece.crlf) := by
  induction h with
  | nil => exact .nil
  | @char c r ps hnone _ ih =>
    have hr := ih (List.not_mem_of_not_mem_cons hs)
    have hnone' : found? d (Text.crlf (c :: r)) = none := by
      rw [found?_crlf hs, hnone]
      rfl
    by_cases hc : c = '\n'
    · -- A line feed becomes two characters, and no fence begins at the second one either.
      subst hc
      refine .char hnone' (.char ?_ hr)
      refine found?_eq_none_iff.2 ?_
      rintro o inner ⟨b, -, rfl⟩ heq -
      simp [backticks] at heq
    · rw [crlf_cons_of_ne hc] at hnone' ⊢
      rw [List.flatMap_cons, Piece.crlf, crlf_cons_of_ne hc]
      exact .char hnone' hr
  | @fence s r f ps hf _ ih =>
    have hr : '\r' ∉ r := fun h => hs (by
      rw [← matched_append_of_found? hf]
      exact List.mem_append_right _ h)
    refine .fence ?_ (ih hr)
    rw [found?_crlf hs, hf]
    rfl

/-- The pieces of the changed text. -/
theorem pieces_crlf (hs : '\r' ∉ s) : pieces d (crlf s) = (pieces d s).flatMap Piece.crlf :=
  scan_iff.1 ((scan_pieces d s).crlf hs)

/-! ### Blocks -/

/-- A block of a text with the line breaks of the text changed. -/
def Block.crlf (text : Text) (b : Block) : Block :=
  ⟨b.dialect, Text.crlf b.source, Text.crlf b.matched, b.index,
    byteSize (Text.crlf (takeBytes b.start text))⟩

/-- The blocks among the pieces of the changed text. -/
theorem blocksFrom_crlf (index : Nat) (a : Text) (ps : List Piece) :
    blocksFrom d index (byteSize (crlf a)) (ps.flatMap Piece.crlf) =
      (blocksFrom d index (byteSize a) ps).map (Block.crlf (a ++ ps.flatMap Piece.raw)) := by
  induction ps generalizing index a with
  | nil => rfl
  | cons p ps ih =>
    rw [List.flatMap_cons, List.flatMap_cons, ← List.append_assoc]
    have hrest := ih (a := a ++ p.raw)
    simp only [crlf_append, byteSize_append] at hrest
    cases p with
    | char c =>
      rw [Piece.crlf, blocksFrom_map_char_append]
      exact hrest index
    | fence f =>
      have hfound : Block.crlf (a ++ f.matched ++ ps.flatMap Piece.raw)
          ⟨d, f.source, f.matched, index, byteSize a⟩ =
          ⟨d, f.crlf.source, f.crlf.matched, index, byteSize (crlf a)⟩ := by
        rw [Block.crlf, List.append_assoc, takeBytes_byteSize_append, Found.matched_crlf]
        rfl
      have hlater := hrest (index + 1)
      rw [Piece.raw, ← Found.matched_crlf] at hlater
      exact congrArg₂ List.cons hfound.symm hlater

/-- The blocks of a text with its line breaks changed are its blocks with their line breaks
changed, and their places are changed with the text. -/
theorem blocks_crlf (hs : '\r' ∉ s) (d : Dialect) :
    blocks d (crlf s) = (blocks d s).map (Block.crlf s) := by
  have h := blocksFrom_crlf (d := d) 0 [] (pieces d s)
  rw [List.nil_append, (scan_pieces d s).flatMap_raw] at h
  rw [blocks, pieces_crlf hs]
  exact h

/-- The ends of the blocks are changed with the text. -/
theorem map_stop_blocks_crlf (hs : '\r' ∉ s) (d : Dialect) : (blocks d (crlf s)).map Block.stop =
    (blocks d s).map fun b => byteSize (crlf (takeBytes b.stop s)) := by
  rw [blocks_crlf hs, List.map_map]
  refine List.map_congr_left fun b hb => ?_
  obtain ⟨p, r, hraw, hstart⟩ := exists_append_of_mem_blocks hb
  have htake : takeBytes b.start s = p := by
    rw [hraw, hstart, takeBytes_byteSize_append]
  have htake_stop : takeBytes b.stop s = p ++ b.matched := by
    rw [Block.stop, hraw, hstart, ← byteSize_append, ← List.append_assoc, takeBytes_byteSize_append]
  rw [Function.comp_apply, Block.stop, Block.crlf, htake, htake_stop, crlf_append, byteSize_append]

/-! ### The readers of a document -/

/-- Line breaks do not change how a document is read: its segments, its front matter and its
diagrams are found as before, with their own line breaks changed, and in places that are changed
with the document. -/
theorem readers_crlf {text : Text} (h : '\r' ∉ text) :
    segments (crlf text) = (segments text).map (Segment.map crlf Fence.crlf) ∧
      (∀ f : Fence, f.crlf.indent = f.indent ∧ f.crlf.info = f.info ∧
        f.crlf.language = f.language ∧ f.crlf.code = crlf f.code) ∧
      frontMatter? (crlf text) = (frontMatter? text).map FrontMatter.crlf ∧
      (frontMatter? (crlf text)).map (fun f => byteSize f.block) =
        (frontMatter? text).map (fun f => byteSize (crlf (takeBytes (byteSize f.block) text))) ∧
      ∀ d, blocks d (crlf text) = (blocks d text).map (Block.crlf text) ∧
        (blocks d (crlf text)).map Block.stop =
          (blocks d text).map fun b => byteSize (crlf (takeBytes b.stop text)) :=
  ⟨segments_crlf text, fun f => ⟨rfl, rfl, rfl, f.code_crlf⟩, frontMatter?_crlf text,
    map_byteSize_block_crlf text, fun d => ⟨blocks_crlf h d, map_stop_blocks_crlf h d⟩⟩

theorem readers_crlf_sample :
    let text : Text := "---\na\n--- \n\x60\x60\x60mermaid\nA\n\n\x60\x60\x60 \n ~~~\n b\n\n".toList
    '\r' ∉ text ∧
      segments (crlf text) =
        [.text "---\r\na\r\n--- \r\n".toList,
          .fence ⟨"\x60\x60\x60mermaid\r\nA\r\n\r\n\x60\x60\x60".toList, [], "mermaid".toList,
            "A".toList⟩,
          .text " \r\n".toList,
          .fence ⟨" ~~~\r\n b\r\n\r\n".toList, [' '], [], " b".toList⟩] ∧
      frontMatter? (crlf text) =
        some ⟨"---\r\n".toList, "a\r\n".toList, "--- \r\n".toList,
          "\x60\x60\x60mermaid\r\nA\r\n\r\n\x60\x60\x60 \r\n ~~~\r\n b\r\n\r\n".toList⟩ ∧
      blocks .mermaid (crlf text) =
        [⟨.mermaid, "A\r\n".toList, "\x60\x60\x60mermaid\r\nA\r\n\r\n\x60\x60\x60".toList, 0, 14⟩] := by
  intro text
  have h : '\r' ∉ text := by decide
  obtain ⟨hsegments, -, hfront, -, hblocks⟩ := readers_crlf h
  exact ⟨h, hsegments.trans (by decide), hfront.trans (by decide),
    (hblocks .mermaid).1.trans (by decide)⟩

end DocPreview.Diagram
