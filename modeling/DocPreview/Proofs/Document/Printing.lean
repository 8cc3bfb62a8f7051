import DocPreview.Proofs.Document.Segmentation
import DocPreview.Proofs.Text.Slice

/-!
# Documents as they are written

A manuscript is a document in which texts and listings alternate. A listing is written as a fence:
its code between two lines of markers, each line of the code behind the indentation of these lines.
No line of a text opens a fence and no line of a code closes its own, so the segments of the written
document are the parts of the manuscript, and the code of each fence is the code of its listing.

## Main definitions

* `Listing`, `Passage`, `Manuscript`: code to be written as fences, and documents made of it.
* `Listing.fence`: the fence as which a listing is written.

## Main results

* `Listing.isClosed_fence`: what is written is a fence with a closing line.
* `Listing.code_fence`: the code of a written fence.
* `Manuscript.segments_text`: segmenting a written document gives back its parts.
-/

namespace DocPreview.Document

open Text

/-! ### Indented lines -/

/-- A text with `a` put before each of its lines. -/
def indentLines (a s : Text) : Text := (lines s).flatMap (a ++ ·)

/-- The ways to write a code behind an indentation: a code without characters has no line, or one
that is empty. -/
inductive Indented (a : Text) : Text → Text → Prop
  | lines (code : Text) : Indented a code (indentLines a code)
  | blank : Indented a [] a

variable {a s : Text}

/-- The lines of an indented text are its lines, each of them indented. -/
theorem lines_indentLines (ha : '\n' ∉ a) (s : Text) :
    lines (indentLines a s) = (lines s).map (a ++ ·) := by
  induction s using line_induction with
  | nil => rfl
  | line l s hl hend ih =>
    obtain ⟨c, x, hc, rfl⟩ := hl
    have hline : IsLine (a ++ (c ++ [x])) := by
      rw [← List.append_assoc]
      exact ⟨a ++ c, x, by simp [ha, hc], rfl⟩
    have hend' : EndsLine (a ++ (c ++ [x])) ∨ indentLines a s = [] := by
      refine hend.imp (fun h => Or.inr ?_) (by rintro rfl; rfl)
      simpa [EndsLine] using h
    rw [indentLines, IsLine.lines_append ⟨c, x, hc, rfl⟩ hend, List.flatMap_cons, List.map_cons,
      ← ih, ← hline.lines_append hend']
    rfl

/-- Indenting keeps the last character. -/
theorem getLast?_indentLines (a s : Text) : (indentLines a s).getLast? = s.getLast? := by
  induction s using line_induction with
  | nil => rfl
  | line l s hl hend ih =>
    rw [indentLines] at ih
    rw [indentLines, hl.lines_append hend, List.flatMap_cons, List.getLast?_append, ih,
      List.getLast?_append_of_ne_nil a hl.ne_nil, List.getLast?_append]

/-- A line of a text with a line break put behind it. -/
theorem exists_of_mem_lines_append_lf {l : Text} (h : l ∈ lines (s ++ ['\n'])) :
    ∃ k w, (k = [] ∨ k ∈ lines s) ∧ (∀ c ∈ w, isBlank c) ∧ l = k ++ w := by
  have hlf : ∀ c ∈ ['\n'], isBlank c := List.forall_mem_singleton.2 (by decide)
  induction s using line_induction with
  | nil => exact ⟨[], ['\n'], Or.inl rfl, hlf, by simpa [lines] using h⟩
  | line k s hk hend ih =>
    by_cases hk_end : EndsLine k
    · rw [List.append_assoc, hk.lines_append (Or.inl hk_end)] at h
      rw [hk.lines_append (Or.inl hk_end)]
      rcases List.mem_cons.1 h with rfl | h
      · exact ⟨l, [], Or.inr List.mem_cons_self, by simp, by simp⟩
      · obtain ⟨k', w, hk', hw, rfl⟩ := ih h
        exact ⟨k', w, hk'.imp_right (List.mem_cons_of_mem k), hw, rfl⟩
    · obtain rfl := hend.resolve_left hk_end
      obtain ⟨c, x, hc, rfl⟩ := hk
      have hx : '\n' ∉ c ++ [x] := by
        simp only [List.mem_append, List.mem_singleton, not_or]
        refine ⟨hc, fun hx => hk_end (Or.inr ?_)⟩
        rw [hx]
        simp
      rw [List.append_nil] at h ⊢
      rw [lines_append_lf hx, lines_nil, List.mem_singleton] at h
      exact ⟨c ++ [x], ['\n'], Or.inr (by simp [IsLine.lines_eq ⟨c, x, hc, rfl⟩]), hlf, h⟩

/-- Taking away an indentation that was put before a line. -/
theorem unindentLine_append (ha : ∀ c ∈ a, c = ' ' ∨ c = '\t') (l : Text) :
    unindentLine (byteSize a) (a ++ l) = l := by
  induction a with
  | nil => cases l <;> rfl
  | cons c a ih =>
    rw [List.forall_mem_cons] at ha
    have hsize : byteSize (c :: a) = byteSize a + 1 := by
      rw [byteSize_cons, Nat.add_comm]
      obtain rfl | rfl := ha.1 <;> rfl
    rw [hsize, List.cons_append, unindentLine, if_pos (by simpa using ha.1), ih ha.2]

/-! ### Listings -/

/-- A code to be written as a fence with the given opening line. -/
structure Listing where
  indent : Text
  marker : Char
  size : Nat
  info : Text
  code : Text
  /-- The code with the indentation. -/
  body : Text
  indent_blank : ∀ c ∈ indent, c = ' ' ∨ c = '\t'
  isMarker_marker : isMarker marker
  three_le_size : 3 ≤ size
  trim_info : trim info = info
  lf_notMem_info : '\n' ∉ info
  head?_info : info.head? ≠ some marker
  getLast?_code : ∀ c, code.getLast? = some c → ¬ isLineEnd c
  not_closesFence : ∀ l ∈ lines code, ¬ ClosesFence marker size l
  indented : Indented indent code body

example : Listing where
  indent := " \t".toList
  marker := '~'
  size := 4
  info := "rust ~~~~".toList
  code := "a = 1\n~~~\n\n\x60\x60\x60\x60 ~~~~\n  b".toList
  body := " \ta = 1\n \t~~~\n \t\n \t\x60\x60\x60\x60 ~~~~\n \t  b".toList
  indent_blank := by simp
  isMarker_marker := by decide
  three_le_size := by decide
  trim_info := by decide
  lf_notMem_info := by decide
  head?_info := by decide
  getLast?_code := by simp; decide
  not_closesFence := by
    intro l
    rw [← closedBy_iff (o := ⟨[], '~', 4, []⟩) (by decide) (by decide)]
    revert l
    decide
  indented := .lines _

namespace Listing

variable (x : Listing)

/-- The indentation and the markers, with which both fence lines begin. -/
def fenceLine : Text := x.indent ++ List.replicate x.size x.marker

/-- A listing as it is written. -/
def raw : Text := x.fenceLine ++ x.info ++ '\n' :: (x.body ++ '\n' :: x.fenceLine)

/-- The fence as which a listing is written. -/
def fence : Fence := ⟨x.raw, x.indent, x.info, x.body⟩

/-- The opening line as it is read. -/
def opening : Opening := ⟨x.indent, x.marker, x.size, x.info⟩

theorem isBlank_of_mem_indent {c : Char} (hc : c ∈ x.indent) : isBlank c := by
  obtain rfl | rfl := x.indent_blank c hc <;> decide

theorem isLineEnd_of_mem_indent {c : Char} (hc : c ∈ x.indent) : ¬ isLineEnd c := by
  obtain rfl | rfl := x.indent_blank c hc <;> decide

theorem lf_notMem_indent : '\n' ∉ x.indent := fun h => x.isLineEnd_of_mem_indent h (by decide)

theorem lf_notMem_fenceLine : '\n' ∉ x.fenceLine := by
  rw [fenceLine, List.mem_append, List.mem_replicate, not_or]
  refine ⟨x.lf_notMem_indent, fun h => ?_⟩
  have hmarker := isBlank_eq_false_of_isMarker x.isMarker_marker
  rw [← h.2] at hmarker
  cases hmarker

theorem getLast?_fenceLine : x.fenceLine.getLast? = some x.marker := by
  have := x.three_le_size
  rw [fenceLine, List.getLast?_append, List.getLast?_replicate, if_neg (by omega)]
  rfl

theorem trimEnd_fenceLine : trimEnd x.fenceLine = x.fenceLine := by
  refine dropEndWhile_eq_self_iff.2 fun c hc => ?_
  rw [getLast?_fenceLine] at hc
  obtain rfl := Option.some.inj hc
  simp [isBlank_eq_false_of_isMarker x.isMarker_marker]

/-- The opening line without its line break. -/
theorem dropEndWhile_head :
    dropEndWhile isLineEnd (x.fenceLine ++ x.info ++ ['\n']) = x.fenceLine ++ x.info := by
  rw [dropEndWhile_append_of_pos (List.forall_mem_singleton.2 (by decide)),
    dropEndWhile_eq_self_iff]
  intro c hc
  rw [List.getLast?_append, getLast?_fenceLine] at hc
  cases hlast : x.info.getLast? with
  | none =>
    rw [hlast] at hc
    obtain rfl := Option.some.inj hc
    simp [isLineEnd_eq_false_of_isMarker x.isMarker_marker]
  | some y =>
    rw [hlast] at hc
    obtain rfl := Option.some.inj hc
    have htrim : trimEnd x.info = x.info := by
      rw [← x.trim_info]
      exact dropEndWhile_idem isBlank (trimStart x.info)
    exact fun hend => dropEndWhile_eq_self_iff.1 htrim y hlast (isBlank_of_isLineEnd hend)

theorem opening?_head : opening? (x.fenceLine ++ x.info ++ ['\n']) = some x.opening := by
  refine opening?_eq_some_iff.2 ⟨x.isMarker_marker, x.three_le_size,
    fun c => x.isBlank_of_mem_indent, x.info, x.head?_info, x.trim_info.symm, ?_⟩
  rw [dropEndWhile_head, fenceLine, List.append_assoc]
  rfl

theorem pos_size : 0 < x.opening.size := by
  have := x.three_le_size
  simp only [opening]
  omega

theorem closedBy_fenceLine : x.opening.closedBy x.fenceLine = true := by
  refine (closedBy_iff x.isMarker_marker x.pos_size).2
    ⟨x.indent, x.size, [], fun c => x.isBlank_of_mem_indent, le_rfl, by simp, ?_⟩
  rw [List.append_nil, fenceLine]
  rfl

/-- No line of the body closes the fence. -/
theorem closedBy_of_mem_body {l : Text} (h : l ∈ lines x.body) : x.opening.closedBy l = false := by
  have hblank (c : Char) : c ∈ x.indent → isBlank c := x.isBlank_of_mem_indent
  have hindented := x.indented
  generalize hcode : x.code = code at hindented
  generalize x.body = body at h hindented
  cases hindented with
  | lines =>
    rw [lines_indentLines x.lf_notMem_indent, List.mem_map] at h
    obtain ⟨k, hk, rfl⟩ := h
    rw [closedBy_blank_append hblank, ← Bool.not_eq_true, closedBy_iff x.isMarker_marker x.pos_size]
    exact x.not_closesFence k (hcode ▸ hk)
  | blank =>
    have hl : ∀ c ∈ l, isBlank c := fun c hc => hblank c ((infix_of_mem_lines h).subset hc)
    rw [← List.append_nil l, closedBy_blank_append hl, closedBy_nil x.pos_size]

/-- The line break behind the body is not part of it. -/
theorem dropEndWhile_body : dropEndWhile isLineEnd (x.body ++ ['\n']) = x.body := by
  rw [dropEndWhile_append_of_pos (List.forall_mem_singleton.2 (by decide)),
    dropEndWhile_eq_self_iff]
  have hcode := x.getLast?_code
  have hindented := x.indented
  generalize x.code = code at hcode hindented
  generalize x.body = body at hindented
  cases hindented with
  | lines => rwa [getLast?_indentLines]
  | blank => exact fun c hc => x.isLineEnd_of_mem_indent (List.mem_of_getLast? hc)

/-- What is written is a fence with a closing line. -/
theorem isClosed_fence : x.fence.IsClosed := by
  refine ⟨x.opening, x.fenceLine ++ x.info ++ ['\n'], lines (x.body ++ ['\n']), x.fenceLine,
    x.opening?_head, fun l hl => ?_, x.closedBy_fenceLine, x.trimEnd_fenceLine, ?_, ?_⟩
  · obtain ⟨k, w, hk, hw, rfl⟩ := exists_of_mem_lines_append_lf hl
    rw [closedBy_append_of_blank x.isMarker_marker x.pos_size hw]
    rcases hk with rfl | hk
    · exact closedBy_nil x.pos_size
    · exact x.closedBy_of_mem_body hk
  · have hhead : '\n' ∉ x.fenceLine ++ x.info := by
      simp [x.lf_notMem_fenceLine, x.lf_notMem_info]
    have hline : IsLine x.fenceLine := by
      refine isLine_of_notMem x.lf_notMem_fenceLine fun h => ?_
      have hlast := x.getLast?_fenceLine
      rw [h] at hlast
      cases hlast
    rw [fence, raw, lines_append_lf hhead, List.append_cons x.body,
      lines_append (endsLine_append_lf _), hline.lines_eq]
  · rw [flatten_lines, Opening.fence, dropEndWhile_body]
    simp [fence, raw, opening]

/-- The code of a written fence. -/
theorem code_fence : x.fence.code = x.code := by
  have hunindent := unindentLine_append x.indent_blank
  have hindented := x.indented
  have hlf := x.lf_notMem_indent
  rw [Fence.code, fence]
  generalize x.code = code at hindented ⊢
  generalize x.body = body at hindented ⊢
  cases hindented with
  | lines =>
    simp only [lines_indentLines hlf, List.flatMap_map, hunindent]
    rw [List.flatMap_id', flatten_lines]
  | blank =>
    by_cases hne : x.indent = []
    · rw [hne]
      rfl
    · rw [(isLine_of_notMem hlf hne).lines_eq, List.flatMap_singleton, ← List.append_nil x.indent]
      simpa using hunindent []

end Listing

/-! ### Manuscripts -/

/-- A text between listings, or a listing. -/
inductive Passage where
  | text (s : Text)
  | listing (x : Listing)

namespace Passage

/-- A passage as it is written. -/
def raw : Passage → Text
  | text s => s
  | listing x => x.raw

/-- A passage as it is read. -/
def segment : Passage → Segment
  | text s => .text s
  | listing x => .fence x.fence

/-- What a passage may hold. -/
def Ok : Passage → Prop
  | text s => s ≠ [] ∧ ∀ l ∈ lines s, ¬ OpensFence l
  | listing _ => True

/-- Texts and listings alternate, and listings are on lines of their own. -/
def Meets : Passage → Passage → Prop
  | text s, listing _ => s.getLast? = some '\n'
  | listing _, text s => s.head? = some '\n'
  | _, _ => False

theorem raw_segment (p : Passage) : p.segment.raw = p.raw := by
  cases p <;> rfl

theorem Ok.segment {p : Passage} (h : p.Ok) : p.segment.Ok := by
  cases p with
  | text s => exact h
  | listing x => exact Or.inl x.isClosed_fence

theorem Meets.segment {p q : Passage} (h : p.Meets q) : p.segment.Meets q.segment := by
  cases p with
  | text s =>
    cases q with
    | text t => exact h.elim
    | listing x => exact Or.inr h
  | listing x =>
    cases q with
    | text t =>
      obtain ⟨r, rfl⟩ := List.head?_eq_some_iff.1 (h : t.head? = some '\n')
      exact ⟨x.isClosed_fence, startsBlank_iff.2 ⟨['\n'], r, rfl,
        List.forall_mem_singleton.2 (by decide), Or.inl rfl⟩⟩
    | listing y => exact h.elim

end Passage

/-- A document in which texts and listings alternate. -/
structure Manuscript where
  parts : List Passage
  ok : ∀ p ∈ parts, p.Ok
  meets : parts.IsChain Passage.Meets

/-- The document as it is written. -/
def Manuscript.text (doc : Manuscript) : Text := doc.parts.flatMap Passage.raw

/-- The parts as they are read are a segmentation of the written document. -/
theorem Manuscript.isSegmentation (doc : Manuscript) :
    IsSegmentation (doc.parts.map Passage.segment) where
  ok y hy := by
    obtain ⟨p, hp, rfl⟩ := List.mem_map.1 hy
    exact (doc.ok p hp).segment
  meets := List.isChain_map_of_isChain Passage.segment (fun _ _ => Passage.Meets.segment) doc.meets

theorem Manuscript.flatMap_raw (doc : Manuscript) :
    (doc.parts.map Passage.segment).flatMap Segment.raw = doc.text := by
  rw [List.flatMap_map, Manuscript.text]
  exact List.flatMap_congr fun p _ => p.raw_segment

/-- Segmenting a written document gives back its parts, and the fences hold the codes that were
written. -/
theorem Manuscript.segments_text (doc : Manuscript) :
    segments doc.text = doc.parts.map Passage.segment ∧ ∀ x : Listing, x.fence.code = x.code :=
  ⟨segments_eq_iff.2 ⟨doc.isSegmentation, doc.flatMap_raw⟩, Listing.code_fence⟩

end DocPreview.Document
