import DocPreview.Artifact.Prepare
import DocPreview.Proofs.Document.Comment
import DocPreview.Proofs.Document.FrontMatter
import DocPreview.Proofs.Document.Segmentation
import DocPreview.Proofs.Highlight.Inert
import DocPreview.Proofs.Text.Slice

/-!
# Fences of a prepared document

A prepared document is read again by what compiles it. Without highlighting, its segments are those
of the document with comments written as expressions in the texts: the changed pieces are a
segmentation, so they are read as they are. With highlighting, each fence has become a line that
begins with a tag, and no line of the prepared document opens a fence. What stands on that line is
inert: none of the text of the fence gets out of it.

## Main definitions

* `preparedLines`: the lines that a segment becomes.

## Main results

* `segments_prepareBody_none`: preparing without highlighting keeps the fences.
* `segments_prepareBody_some`: preparing with highlighting leaves no fence.
* `segments_prepare`: both, behind the front matter of a document.
* `prepare_inert_elements`: each fence becomes an inert element on a line of its own.
-/

namespace DocPreview.Artifact

open Text Document

/-! ### Without highlighting -/

/-- Escaping comments keeps what a text between fences holds. -/
theorem ok_escapeComments {s : Text} (h : (Segment.text s).Ok) :
    (Segment.text (escapeComments s)).Ok := by
  have hpadded := padded_escapeComments s
  refine ⟨fun hnil => h.1 ?_, hpadded.not_opensFence h.2⟩
  rw [hnil] at hpadded
  exact hpadded.eq_nil

/-- The segments with comments escaped in the texts are a segmentation. -/
theorem isSegmentation_map_escapeComments {segs : List Segment} (h : IsSegmentation segs) :
    IsSegmentation (segs.map (Segment.map escapeComments id)) :=
  h.map (fun _ _ hok => ⟨ok_escapeComments hok, endsLine_escapeComments,
    startsBlank_escapeComments⟩) fun _ _ => ⟨id, id⟩

/-- Preparing without highlighting keeps the fences and escapes the comments of the texts. -/
theorem segments_prepareBody_none (body : Text) :
    segments (prepareBody none body) = (segments body).map (Segment.map escapeComments id) := by
  have hraw (x : Segment) : prepareSegment none x = (x.map escapeComments id).raw := by
    cases x <;> rfl
  rw [prepareBody, segments_eq_iff]
  refine ⟨isSegmentation_map_escapeComments (isSegmentation_segments body), ?_⟩
  rw [List.flatMap_map]
  exact List.flatMap_congr fun x _ => (hraw x).symm

/-! ### With highlighting -/

/-- The indent of a fence is white space within a line. -/
theorem blank_of_mem_fence_indent {f : Fence} (hf : (Segment.fence f).Ok) {c : Char}
    (hc : c ∈ f.indent) : isBlank c ∧ c ≠ '\n' := by
  obtain ⟨o, head, hhead, ho, hindent⟩ := hf.exists_opening
  exact blank_of_mem_indent hhead ho (hindent ▸ hc)

/-- A fence becomes a blank line and a line of its own, with its indent. -/
theorem lines_prepareSegment_append {shown : Fence → Text} {f : Fence} (hshown : '\n' ∉ shown f)
    (hf : (Segment.fence f).Ok) (w : Text) :
    lines (prepareSegment (some shown) (.fence f) ++ w) =
      ['\n'] :: (f.indent ++ shown f ++ ['\n']) :: lines w := by
  have hline : '\n' ∉ f.indent ++ shown f := by
    rw [List.mem_append, not_or]
    exact ⟨fun hc => (blank_of_mem_fence_indent hf hc).2 rfl, hshown⟩
  have hshape : prepareSegment (some shown) (.fence f) ++ w =
      [] ++ '\n' :: (f.indent ++ shown f ++ '\n' :: w) := by
    simp [prepareSegment]
  rw [hshape, lines_append_lf List.not_mem_nil, lines_append_lf hline]
  rfl

theorem lf_notMem_of_exists_tag {shown : Fence → Text}
    (hshown : ∀ f, ∃ r, shown f = '<' :: r ∧ '\n' ∉ r) (f : Fence) : '\n' ∉ shown f := by
  obtain ⟨r, hr, hlf⟩ := hshown f
  rw [hr, List.mem_cons, not_or]
  exact ⟨by decide, hlf⟩

/-- A fence becomes a blank line and a line that begins with its tag. -/
theorem exists_lines_prepareSegment {shown : Fence → Text}
    (hshown : ∀ f, ∃ r, shown f = '<' :: r ∧ '\n' ∉ r) {f : Fence} (hf : (Segment.fence f).Ok) :
    (∀ c ∈ f.indent, isBlank c) ∧ ∃ r, ∀ w,
      lines (prepareSegment (some shown) (.fence f) ++ w) =
        ['\n'] :: (f.indent ++ '<' :: r) :: lines w := by
  obtain ⟨r, hr, -⟩ := hshown f
  refine ⟨fun c hc => (blank_of_mem_fence_indent hf hc).1, r ++ ['\n'], fun w => ?_⟩
  rw [lines_prepareSegment_append (lf_notMem_of_exists_tag hshown f) hf, hr, List.append_assoc,
    List.cons_append]

/-- The lines that a segment becomes where the fences become elements. -/
def preparedLines (shown : Fence → Text) : Segment → List Text
  | .text s => lines (escapeComments s)
  | .fence f => [['\n'], f.indent ++ shown f ++ ['\n']]

/-- The lines of the prepared segments are those that each segment becomes. -/
theorem lines_flatMap_prepareSegment {shown : Fence → Text} (hshown : ∀ f, '\n' ∉ shown f)
    {segs : List Segment} (h : IsSegmentation segs) :
    lines (segs.flatMap (prepareSegment (some shown))) = segs.flatMap (preparedLines shown) := by
  induction segs with
  | nil => rfl
  | cons x segs ih =>
    obtain ⟨hok, hmeets⟩ := h
    have hx := hok x List.mem_cons_self
    have hrest := ih ⟨fun y hy => hok y (List.mem_cons_of_mem _ hy), hmeets.tail⟩
    rw [List.flatMap_cons, List.flatMap_cons]
    cases x with
    | text s =>
      rcases endsLine_of_meets hmeets with hend | rfl
      · rw [prepareSegment, lines_append (endsLine_escapeComments hend), hrest]
        rfl
      · rw [List.flatMap_nil, List.flatMap_nil, List.append_nil, List.append_nil]
        rfl
    | fence f =>
      rw [lines_prepareSegment_append (hshown f) hx, hrest]
      rfl

/-- No line of the prepared segments opens a fence. -/
theorem not_opensFence_prepared {shown : Fence → Text}
    (hshown : ∀ f, ∃ r, shown f = '<' :: r ∧ '\n' ∉ r) {segs : List Segment}
    (h : IsSegmentation segs) :
    ∀ l ∈ lines (segs.flatMap (prepareSegment (some shown))), ¬ OpensFence l := by
  intro l hl
  rw [lines_flatMap_prepareSegment (lf_notMem_of_exists_tag hshown) h, List.mem_flatMap] at hl
  obtain ⟨x, hx, hl⟩ := hl
  cases x with
  | text s => exact (padded_escapeComments s).not_opensFence (h.ok _ hx).2 l hl
  | fence f =>
    obtain rfl | rfl : l = ['\n'] ∨ l = f.indent ++ shown f ++ ['\n'] := by
      simpa [preparedLines] using hl
    · exact not_opensFence_of_blank (List.forall_mem_singleton.2 (by decide))
    · obtain ⟨r, hr, -⟩ := hshown f
      have hindent (c : Char) (hc : c ∈ f.indent) : isBlank c :=
        (blank_of_mem_fence_indent (h.ok _ hx) hc).1
      rw [hr, List.append_assoc]
      exact not_opensFence_append_cons hindent (by decide) (by decide) (r ++ ['\n'])

/-- Preparing with elements for the fences leaves no fence. -/
theorem segments_prepareBody_some {shown : Fence → Text}
    (hshown : ∀ f, ∃ r, shown f = '<' :: r ∧ '\n' ∉ r) (body : Text) :
    segments (prepareBody (some shown) body) = markup (prepareBody (some shown) body) :=
  segments_eq_markup (not_opensFence_prepared hshown (isSegmentation_segments body))

/-! ### Behind the front matter -/

/-- The number of bytes of the front matter of a document. -/
def bodyStart (text : Text) : Nat := (frontMatter? text).elim 0 fun f => byteSize f.block

/-- Preparing a document is preparing what follows its front matter, which begins with a line. -/
theorem exists_front (text : Text) : ∃ front body, text = front ++ body ∧
    (EndsLine front ∨ body = []) ∧ bodyStart text = byteSize front ∧
    ∀ show?, prepareWith show? text = front ++ prepareBody show? body := by
  simp only [bodyStart, prepareWith]
  cases h : frontMatter? text with
  | none => exact ⟨[], text, rfl, Or.inl (Or.inl rfl), rfl, fun _ => rfl⟩
  | some f =>
    exact ⟨f.block, f.body, (block_append_body h).symm, endsLine_block_or h, rfl, fun _ => rfl⟩

/-- A document prepared without highlighting has the fences of the document and its texts with their
comments escaped, and one prepared with highlighting has no fence. The front matter is kept. -/
theorem segments_prepare (text : Text) :
    segments (dropBytes (bodyStart text) (prepare false text)) =
        (segments (dropBytes (bodyStart text) text)).map (Segment.map escapeComments id) ∧
      (∀ f, .fence f ∉ segments (dropBytes (bodyStart text) (prepare true text))) ∧
      ∀ isHighlighting, takeBytes (bodyStart text) (prepare isHighlighting text) =
        takeBytes (bodyStart text) text := by
  obtain ⟨front, body, htext, -, hstart, hprepare⟩ := exists_front text
  simp only [prepare, hprepare, hstart, dropBytes_byteSize, takeBytes_byteSize_append]
  rw [htext, dropBytes_byteSize, takeBytes_byteSize_append]
  refine ⟨segments_prepareBody_none body, fun f hf => ?_, fun _ => rfl⟩
  have hmarkup := segments_prepareBody_some Highlight.exists_element_eq body
  exact fence_notMem_markup f _ (hmarkup ▸ hf)

/-! ### Elements of a prepared document -/

open Highlight

/-- With elements for the fences, a document becomes its front matter with the lines of each
segment behind it. -/
theorem lines_prepareWith {shown : Fence → Text} (hshown : ∀ f, '\n' ∉ shown f) (text : Text) :
    lines (prepareWith (some shown) text) = lines (takeBytes (bodyStart text) text) ++
      (segments (dropBytes (bodyStart text) text)).flatMap (preparedLines shown) := by
  obtain ⟨front, body, htext, hend, hstart, hprepare⟩ := exists_front text
  have hbody : lines (prepareBody (some shown) body) =
      (segments body).flatMap (preparedLines shown) :=
    lines_flatMap_prepareSegment hshown (isSegmentation_segments body)
  have hcut : lines (front ++ prepareBody (some shown) body) =
      lines front ++ lines (prepareBody (some shown) body) := by
    rcases hend with hend | rfl
    · exact lines_append hend _
    · have hnil : prepareBody (some shown) [] = [] := rfl
      simp [hnil]
  rw [hprepare, hstart, hcut, hbody]
  simp only [htext, takeBytes_byteSize_append, dropBytes_byteSize]

/-- The element for a fence is inert, whatever its indent, its info and its body are. A document
that is prepared with highlighting has for each fence a blank line and a line that is the indent of
the fence, which is white space, with such an element behind it. -/
theorem prepare_inert_elements (tokenizer : Option Text → Tokenizer) :
    (∀ f, IsInertElement (highlightWith (tokenizer (classLanguage? f.language)) f.code)
      (elementWith tokenizer f)) ∧
    (∀ text, prepare true text = prepareWith (some (elementWith tokenizerFor)) text) ∧
    ∀ text, lines (prepareWith (some (elementWith tokenizer)) text) =
        lines (takeBytes (bodyStart text) text) ++
          (segments (dropBytes (bodyStart text) text)).flatMap
            (preparedLines (elementWith tokenizer)) ∧
      ∀ f, .fence f ∈ segments (dropBytes (bodyStart text) text) →
        ∀ c ∈ f.indent, isBlank c ∧ c ≠ '\n' := by
  have hinert := isInertElement_elementWith tokenizer
  refine ⟨hinert, fun text => rfl, fun text => ⟨?_, fun f hf c hc => ?_⟩⟩
  · exact lines_prepareWith (fun f => (hinert f).no_lineBreak.1) text
  · exact blank_of_mem_fence_indent ((isSegmentation_segments _).ok _ hf) hc

/-- A fence in a list, with a brace in its code. -/
theorem prepare_inert_elements_in_list :
    let f : Fence := ⟨"  ~~~js\n  \x7b<\n  ~~~".toList, "  ".toList, "js".toList, "  \x7b<".toList⟩
    let text := "- a\n  ~~~js\n  \x7b<\n  ~~~\n".toList
    .fence f ∈ segments (dropBytes (bodyStart text) text) ∧
      (∀ c ∈ f.indent, isBlank c ∧ c ≠ '\n') ∧
      lines (prepareWith (some (elementWith fun _ => .plain)) text) =
        ["- a\n".toList, "\n".toList, ("  <pre><code className=\"hljs language-js\" ".toList ++
          "dangerouslySetInnerHTML=\x7b\x7b__html: \"\\u007b&lt;\"\x7d\x7d /></pre>\n".toList),
          "\n".toList] := by
  intro f text
  have hf : .fence f ∈ segments (dropBytes (bodyStart text) text) := by decide +kernel
  obtain ⟨-, -, h⟩ := prepare_inert_elements fun _ => .plain
  obtain ⟨hlines, hindent⟩ := h text
  refine ⟨hf, hindent f hf, hlines.trans ?_⟩
  decide +kernel

end DocPreview.Artifact
