import DocPreview.Proofs.Diagram.Outline
import DocPreview.Proofs.Document.Printing

/-!
# Diagrams among the fences of a document

A document is read twice: the diagrams are found by their backticks, and what compiles the document
reads its fences line by line. In an outline without lines of tildes both readers find the fences as
they were written, so the blocks of a dialect are the fences that carry its label, with their codes
and at their places.

## Main definitions

* `fencesFrom`: the fences among segments, each with its place.
* `PlainOutline`: outlines in which no line of a text begins with tildes.

## Main results

* `slice_of_mem_fencesFrom`: the place of a fence is where it is written.
* `PlainOutline.segments_text_eq`: the parts of an outline are its segments.
* `PlainOutline.blocks_text_eq_fences`: the blocks of a dialect are the fences with its label.
-/

namespace DocPreview.Document

open Text

/-! ### Places of fences -/

/-- The fences among segments that stand behind `start` bytes, each with the number of bytes before
it. -/
def fencesFrom : Nat → List Segment → List (Nat × Fence)
  | _, [] => []
  | start, .text s :: segs => fencesFrom (start + byteSize s) segs
  | start, .fence f :: segs => (start, f) :: fencesFrom (start + byteSize f.raw) segs

/-- The fence that a segment is. -/
def Segment.fence? : Segment → Option Fence
  | .text _ => none
  | .fence f => some f

theorem map_snd_fencesFrom (start : Nat) (segs : List Segment) :
    (fencesFrom start segs).map Prod.snd = segs.filterMap Segment.fence? := by
  induction segs generalizing start with
  | nil => rfl
  | cons x segs ih =>
    cases x with
    | text s => exact ih _
    | fence f => exact congrArg (f :: ·) (ih _)

/-- The place of a fence is where it is written. -/
theorem slice_of_mem_fencesFrom {a : Text} {segs : List Segment} {start : Nat} {f : Fence}
    (h : (start, f) ∈ fencesFrom (byteSize a) segs) :
    slice (a ++ segs.flatMap Segment.raw) start (start + byteSize f.raw) = f.raw := by
  induction segs generalizing a with
  | nil => cases h
  | cons x segs ih =>
    have hrest (hmem : (start, f) ∈ fencesFrom (byteSize (a ++ x.raw)) segs) :
        slice (a ++ (x :: segs).flatMap Segment.raw) start (start + byteSize f.raw) = f.raw := by
      rw [List.flatMap_cons, ← List.append_assoc]
      exact ih hmem
    cases x with
    | text s =>
      refine hrest ?_
      rwa [byteSize_append]
    | fence g =>
      rcases List.mem_cons.1 h with heq | h
      · obtain ⟨rfl, rfl⟩ := Prod.mk.inj heq
        exact slice_append a f.raw _
      · refine hrest ?_
        rwa [byteSize_append]

end DocPreview.Document

namespace DocPreview.Diagram

open Text Document

/-! ### Parts as segments -/

/-- The beginning of a line of tildes. -/
def tildes : Text := ['~', '~', '~']

/-- A line in which no backticks follow each other three times does not close a fence of
backticks. -/
theorem not_closesFence {l : Text} (h : ¬ backticks <:+: l) : ¬ ClosesFence '\x60' 3 l := by
  rintro ⟨a, k, w, -, hk, -, rfl⟩
  refine h ⟨a, List.replicate (k - 3) '\x60' ++ w, ?_⟩
  obtain ⟨j, rfl⟩ : ∃ j, k = 3 + j := ⟨k - 3, by omega⟩
  rw [List.replicate_add, Nat.add_sub_cancel_left]
  simp only [List.append_assoc]
  rfl

/-- A line that has no three backticks and does not begin with three tildes opens no fence. -/
theorem not_opensFence {l : Text} (h : ¬ backticks <:+: l) (ht : ¬ tildes <+: trimStart l) :
    ¬ OpensFence l := by
  rintro ⟨a, m, r, ha, hm, rfl⟩
  obtain rfl | rfl : m = '\x60' ∨ m = '~' := by simpa [isMarker] using hm
  · exact h ⟨a, r, by simp [backticks]⟩
  · refine ht ⟨r, ?_⟩
    rw [trimStart, List.dropWhile_append_of_pos ha]
    rfl

/-- An outline in which no line of a text begins, behind white space, with three tildes. -/
structure PlainOutline extends Outline where
  plain : ∀ s, .text s ∈ parts → ∀ l ∈ lines s, ¬ tildes <+: trimStart l

example : PlainOutline where
  parts := [.text "a ~~~\n".toList, .fence "mermaid".toList "~~~\ngraph TD".toList,
    .text "\n ~~\n".toList, .fence "lua".toList []]
  ok := by decide
  meets := by decide
  plain := by simp; decide

namespace Part

/-- A part as it is read line by line. -/
def segment : Part → Segment
  | text s => .text s
  | fence info code => .fence ⟨(fence info code).raw, [], info, code⟩

theorem raw_segment (p : Part) : p.segment.raw = p.raw := by
  cases p <;> rfl

/-- A fence of an outline as a listing. -/
def listing {info code : Text} (h : (fence info code).Ok) : Listing where
  indent := []
  marker := '\x60'
  size := 3
  info := info
  code := code
  body := indentLines [] code
  indent_blank := by simp
  isMarker_marker := by decide
  three_le_size := le_rfl
  trim_info := h.1
  lf_notMem_info := h.2.2.1
  head?_info hhead := h.2.1 (List.mem_of_head? hhead)
  getLast?_code c hc hend := by
    obtain rfl | rfl : c = '\n' ∨ c = '\r' := by simpa [isLineEnd] using hend
    · exact h.2.2.2.2.2 hc
    · exact h.2.2.2.2.1 hc
  not_closesFence l hl :=
    not_closesFence fun hticks => h.2.2.2.1 (hticks.trans (infix_of_mem_lines hl))
  indented := .lines code

/-- A part as a passage of a manuscript. -/
def passage : (p : Part) → p.Ok → Passage
  | text s, _ => .text s
  | fence _ _, h => .listing (listing h)

theorem fence_listing {info code : Text} (h : (fence info code).Ok) :
    (listing h).fence = ⟨(fence info code).raw, [], info, code⟩ := by
  have hbody : indentLines [] code = code := by simp [indentLines, flatten_lines]
  simp [listing, Listing.fence, Listing.raw, Listing.fenceLine, hbody, raw, backticks, closing]

theorem segment_passage (p : Part) (h : p.Ok) : (p.passage h).segment = p.segment := by
  cases p with
  | text s => rfl
  | fence info code => rw [passage, Passage.segment, fence_listing, segment]

/-- A fence is found as it is written. -/
theorem matched_found (d : Dialect) (code : Text) :
    Found.matched ⟨backticks ++ d.label.toList ++ ['\n'], code, closing⟩ =
      (fence d.label.toList code).raw := by
  simp [Found.matched, raw]

/-- A fence of an outline is read with its code. -/
theorem code_segment {info code : Text} (h : (fence info code).Ok) :
    Fence.code ⟨(fence info code).raw, [], info, code⟩ = code := by
  rw [← fence_listing h, Listing.code_fence]
  rfl

end Part

namespace PlainOutline

variable (doc : PlainOutline) {d : Dialect}

/-- An outline as a manuscript. -/
def manuscript : Manuscript where
  parts := doc.parts.pmap Part.passage doc.ok
  ok x hx := by
    obtain ⟨p, hp, rfl⟩ := List.mem_pmap.1 hx
    have hok := doc.ok p hp
    cases p with
    | text s =>
      refine ⟨hok.1, fun l hl => not_opensFence (fun h => ?_) (doc.plain s hp l hl)⟩
      exact hok.2 (h.trans (infix_of_mem_lines hl))
    | fence info code => trivial
  meets := by
    refine List.isChain_pmap_of_isChain (fun p q _ _ h => ?_) doc.meets doc.ok
    cases p <;> cases q <;> exact h

theorem map_segment_manuscript :
    doc.manuscript.parts.map Passage.segment = doc.parts.map Part.segment := by
  rw [manuscript, List.map_pmap]
  simp only [Part.segment_passage, List.pmap_eq_map]

/-- The segments of an outline are its parts. -/
theorem segments_text_eq : segments doc.text = doc.parts.map Part.segment := by
  have h := segments_eq_iff.2 ⟨doc.manuscript.isSegmentation, rfl⟩
  have hraw : (doc.parts.map Part.segment).flatMap Segment.raw = doc.text := by
    rw [List.flatMap_map, Outline.text]
    exact List.flatMap_congr fun p _ => p.raw_segment
  rwa [map_segment_manuscript, hraw] at h

end PlainOutline

/-! ### Blocks as fences -/

/-- The fences with the label of a dialect, as the blocks that stand behind `index` blocks and
`start` bytes. -/
def labelled (d : Dialect) (index start : Nat) (segs : List Segment) : List Block :=
  (((fencesFrom start segs).filter fun p => p.2.info = d.label.toList).zipIdx index).map
    fun ((place, f), i) => ⟨d, f.code, f.raw, i, place⟩

variable {render : Renderer} {d : Dialect} {index start : Nat}

theorem labelled_cons_of_pos {f : Fence} {segs : List Segment} (h : f.info = d.label.toList) :
    labelled d index start (.fence f :: segs) =
      ⟨d, f.code, f.raw, index, start⟩ ::
        labelled d (index + 1) (start + byteSize f.raw) segs := by
  rw [labelled, fencesFrom, List.filter_cons_of_pos (by simpa using h)]
  rfl

theorem labelled_cons_of_neg {f : Fence} {segs : List Segment} (h : f.info ≠ d.label.toList) :
    labelled d index start (.fence f :: segs) =
      labelled d index (start + byteSize f.raw) segs := by
  rw [labelled, fencesFrom, List.filter_cons_of_neg (by simpa using h)]
  rfl

/-- The blocks among the pieces of some parts are the fences with the label among the parts. -/
theorem blocksFrom_piecesOfParts (index start : Nat) (count : Dialect → Nat) {ps : List Part}
    (hok : ∀ p ∈ ps, p.Ok) :
    blocksFrom d index start (piecesOfParts render [] d count ps) =
      labelled d index start (ps.map Part.segment) := by
  induction ps generalizing index start count with
  | nil => rfl
  | cons p ps ih =>
    rw [List.forall_mem_cons] at hok
    rw [piecesOfParts]
    cases p with
    | text s =>
      rw [Part.pieces, blocksFrom_map_char_append, ih _ _ _ hok.2]
      rfl
    | fence info code =>
      rw [Part.pieces, List.map_cons, Part.segment]
      split_ifs with hinfo
      · subst hinfo
        rw [List.cons_append, blocksFrom, List.nil_append, ih _ _ _ hok.2, Part.matched_found,
          labelled_cons_of_pos rfl, Part.code_segment hok.1]
      · rw [Part.shown_nil, blocksFrom_map_char_append, ih _ _ _ hok.2,
          labelled_cons_of_neg hinfo]

/-- In an outline the blocks of a dialect are the fences with its label, in order, each with its
code, as it is written and at its place. -/
theorem PlainOutline.blocks_text_eq_fences (doc : PlainOutline) (d : Dialect) :
    let fences := fencesFrom 0 (segments doc.text)
    blocks d doc.text =
        ((fences.filter fun p => p.2.info = d.label.toList).zipIdx).map
          (fun ((start, f), i) => ⟨d, f.code, f.raw, i, start⟩) ∧
      fences.map Prod.snd = (segments doc.text).filterMap Segment.fence? ∧
      fences.map (fun (start, f) => slice doc.text start (start + byteSize f.raw)) =
        fences.map (fun (_, f) => f.raw) := by
  refine ⟨?_, map_snd_fencesFrom 0 _, List.map_congr_left fun ⟨start, f⟩ hf => ?_⟩
  · have hpieces : pieces d (doc.shown (fun _ _ => .ok "") []) = _ :=
      doc.pieces_shown List.not_mem_nil
    rw [Outline.shown_nil] at hpieces
    rw [blocks, hpieces, blocksFrom_piecesOfParts 0 0 _ doc.ok, doc.segments_text_eq]
    rfl
  · have h := slice_of_mem_fencesFrom (a := []) hf
    rwa [List.nil_append, flatMap_raw_segments] at h

end DocPreview.Diagram
