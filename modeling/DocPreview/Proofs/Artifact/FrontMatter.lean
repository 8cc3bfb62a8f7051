import DocPreview.Proofs.Artifact.Preparation
import DocPreview.Proofs.Document.CommentSplit
import DocPreview.Proofs.Document.Offset

/-!
# Front matter of a prepared document

Front matter is read twice: from a document for its metadata, and from the prepared document by what
compiles the markup. Both readers find the same. What follows front matter does not matter, and a
document without front matter gets none: preparing makes no new delimiter line, and it puts none in
front of the first line. What preparing writes stands at a comment or is a line with a tag, and no
delimiter line has the characters of either. A document without front matter may still begin with a
delimiter line; then no later line is one, also not in the prepared document.

## Main definitions

* `IsSolid`: texts that are part of no delimiter line.
* `Retouched`: a text with solid stretches changed within their lines.
* `Alike`: lines that are equal, or both solid.

## Main results

* `retouched_escapeComments`: escaping comments changes solid stretches only.
* `countP_prepared_le`, `head?_prepared`: preparing makes no delimiter line.
* `frontMatter?_prepareWith`: the front matter of a prepared document.
* `locate?_prepare`: both readers find the same, and what they find.
-/

namespace DocPreview.Artifact

open Text Document

variable {s t u v x y l m text : Text} {shown : Fence → Text} {segs : List Segment}

/-! ### Solid stretches -/

/-- A text with a character that no delimiter line has. -/
def IsSolid (s : Text) : Prop := ∃ c ∈ s, c ≠ '-' ∧ isBlank c = false

theorem IsSolid.append_left (h : IsSolid s) (t : Text) : IsSolid (s ++ t) := by
  obtain ⟨c, hc, hsolid⟩ := h
  exact ⟨c, List.mem_append_left t hc, hsolid⟩

theorem IsSolid.append_right (h : IsSolid t) (s : Text) : IsSolid (s ++ t) := by
  obtain ⟨c, hc, hsolid⟩ := h
  exact ⟨c, List.mem_append_right s hc, hsolid⟩

theorem IsSolid.ne_nil (h : IsSolid s) : s ≠ [] := by
  obtain ⟨c, hc, -⟩ := h
  exact List.ne_nil_of_mem hc

theorem IsSolid.isDelimiter_eq_false (h : IsSolid l) : isDelimiter l = false := by
  obtain ⟨c, hc, hdash, hblank⟩ := h
  obtain ⟨b, hl, hb⟩ := exists_of_dropEndWhile isBlank l
  refine decide_eq_false fun htrim => ?_
  rw [hl, show dropEndWhile isBlank l = ['-', '-', '-'] from htrim, List.mem_append] at hc
  rcases hc with hc | hc
  · exact hdash (List.eq_of_mem_replicate (n := 3) hc)
  · exact absurd (hb c hc) (by simp [hblank])

theorem isDelimiter_eq_false_of_blank (h : ∀ c ∈ l, isBlank c) : isDelimiter l = false := by
  refine decide_eq_false fun htrim => ?_
  have hdash : '-' ∈ l := (trimEnd_prefix_self l).subset (by simp [htrim])
  exact absurd (h _ hdash) (by decide)

/-- A text and the same text with solid stretches changed, none of which has a line break. -/
inductive Retouched : Text → Text → Prop
  | nil : Retouched [] []
  | keep (c : Char) {s t : Text} (h : Retouched s t) : Retouched (c :: s) (c :: t)
  | change {x y s t : Text} (hx : IsSolid x) (hy : IsSolid y) (hxlf : '\n' ∉ x) (hylf : '\n' ∉ y)
      (h : Retouched s t) : Retouched (x ++ s) (y ++ t)

theorem Retouched.refl (s : Text) : Retouched s s := by
  induction s with
  | nil => exact .nil
  | cons c s ih => exact ih.keep c

theorem Retouched.append (h : Retouched s t) (h' : Retouched u v) :
    Retouched (s ++ u) (t ++ v) := by
  induction h with
  | nil => exact h'
  | keep c _ ih => exact ih.keep c
  | change hx hy hxlf hylf _ ih =>
    rw [List.append_assoc, List.append_assoc]
    exact ih.change hx hy hxlf hylf

/-- One solid stretch is changed. -/
theorem retouched_of_isSolid (hx : IsSolid x) (hy : IsSolid y) (hxlf : '\n' ∉ x)
    (hylf : '\n' ∉ y) : Retouched x y := by
  simpa using Retouched.nil.change hx hy hxlf hylf

/-! ### Their lines -/

/-- Lines that are equal, or both solid. -/
def Alike (l m : Text) : Prop := l = m ∨ IsSolid l ∧ IsSolid m

theorem Alike.isDelimiter_eq (h : Alike l m) : isDelimiter l = isDelimiter m := by
  rcases h with rfl | ⟨hl, hm⟩
  · rfl
  · rw [hl.isDelimiter_eq_false, hm.isDelimiter_eq_false]

theorem Alike.cons (h : Alike l m) (c : Char) : Alike (c :: l) (c :: m) :=
  h.imp (congrArg (c :: ·)) fun h => ⟨h.1.append_right [c], h.2.append_right [c]⟩

/-- Stretches without a line break join the first lines of what follows them. -/
theorem forall₂_lines_append (hx : IsLine x) (hy : IsLine y) (hxlf : '\n' ∉ x) (hylf : '\n' ∉ y)
    (hxy : ∀ l m, Alike l m → Alike (x ++ l) (y ++ m))
    (h : List.Forall₂ Alike (lines s) (lines t)) :
    List.Forall₂ Alike (lines (x ++ s)) (lines (y ++ t)) := by
  cases hs : lines s with
  | nil =>
    rw [hs, List.forall₂_nil_left_iff] at h
    rw [← flatten_lines s, ← flatten_lines t, hs, h]
    simpa [hx.lines_eq, hy.lines_eq] using hxy [] [] (Or.inl rfl)
  | cons l ls =>
    rw [hs, List.forall₂_cons_left_iff] at h
    obtain ⟨m, ms, hlm, hrest, ht⟩ := h
    rw [lines_append_of_notMem hxlf hs, lines_append_of_notMem hylf ht]
    exact .cons (hxy l m hlm) hrest

/-- Changing solid stretches keeps the other lines, and the changed ones are solid. -/
theorem Retouched.forall₂_lines (h : Retouched s t) :
    List.Forall₂ Alike (lines s) (lines t) := by
  induction h with
  | nil => exact .nil
  | @keep c s t _ ih =>
    by_cases hc : c = '\n'
    · rw [hc, lines, lines, if_pos rfl, if_pos rfl]
      exact .cons (Or.inl rfl) ih
    · have hlf : '\n' ∉ [c] := by simpa using Ne.symm hc
      have hline : IsLine [c] := isLine_of_notMem hlf (by simp)
      exact forall₂_lines_append hline hline hlf hlf (fun l m hlm => hlm.cons c) ih
  | change hx hy hxlf hylf _ ih =>
    exact forall₂_lines_append (isLine_of_notMem hxlf hx.ne_nil) (isLine_of_notMem hylf hy.ne_nil)
      hxlf hylf (fun l m _ => Or.inr ⟨hx.append_left l, hy.append_left m⟩) ih

/-! ### Comments -/

theorem separateCloser_append_commentCloser (s : Text) :
    separateCloser (s ++ commentCloser) = separateCloser s ++ commentCloser := by
  fun_induction separateCloser s with
  | case1 r ih => exact congrArg (['*', ' ', '/'] ++ ·) ih
  | case2 c r hc ih =>
    rw [List.cons_append, List.cons_append, ← ih]
    refine separateCloser.eq_2 c _ fun r' hstar hslash => ?_
    cases r with
    | nil => exact absurd (List.cons.inj hslash).1 (by decide)
    | cons x r => exact hc r hstar (by rw [(List.cons.inj hslash).1])
  | case3 => rfl

theorem retouched_separateCloser (s : Text) : Retouched s (separateCloser s) := by
  fun_induction separateCloser s with
  | case1 r ih =>
    have hpair : Retouched ['*', '/'] ['*', ' ', '/'] :=
      retouched_of_isSolid ⟨'*', by decide⟩ ⟨'*', by decide⟩ (by decide) (by decide)
    exact hpair.append ih
  | case2 c r hc ih => exact ih.keep c
  | case3 => exact .nil

/-- The wrapper of a comment stands at its opener and at its closer, which are solid. -/
theorem retouched_wrapComment {c : Text} (hc : Document.IsComment c) : Retouched c (wrapComment c) := by
  obtain ⟨content, rfl, -⟩ := hc
  have hopener : Retouched commentOpener ("\x7b/* ".toList ++ commentOpener) :=
    retouched_of_isSolid ⟨'<', by decide⟩ ⟨'<', by decide⟩ (by decide) (by decide)
  have hcloser : Retouched commentCloser (commentCloser ++ " */\x7d".toList) :=
    retouched_of_isSolid ⟨'>', by decide⟩ ⟨'>', by decide⟩ (by decide) (by decide)
  have hwrap : wrapComment (commentOpener ++ (content ++ commentCloser)) =
      "\x7b/* ".toList ++ commentOpener ++ (separateCloser content ++
        (commentCloser ++ " */\x7d".toList)) := by
    have hseparate : separateCloser (commentOpener ++ (content ++ commentCloser)) =
        commentOpener ++ separateCloser (content ++ commentCloser) := rfl
    rw [wrapComment_eq, hseparate, separateCloser_append_commentCloser]
    simp only [List.append_assoc]
  rw [hwrap]
  exact hopener.append ((retouched_separateCloser content).append hcloser)

/-- Escaping comments changes solid stretches only. -/
theorem retouched_escapeComments (s : Text) : Retouched s (escapeComments s) := by
  obtain ⟨gaps, comments, h⟩ := exists_commentSplit s
  rw [h.escapeComments_eq]
  induction h with
  | @last g => simpa using Retouched.refl g
  | comment _ hc _ ih => exact (Retouched.refl _).append ((retouched_wrapComment hc).append ih)

/-! ### Delimiter lines of a prepared body -/

/-- Lines that are alike in pairs have as many delimiters. -/
theorem countP_isDelimiter_eq {ls ms : List Text} (h : List.Forall₂ Alike ls ms) :
    ls.countP isDelimiter = ms.countP isDelimiter := by
  induction h with
  | nil => rfl
  | cons hlm _ ih => rw [List.countP_cons, List.countP_cons, ih, hlm.isDelimiter_eq]

/-- What stands in front of a blank line takes no delimiter away. -/
theorem countP_lines_le_append (h : StartsBlank t) (s : Text) :
    (lines t).countP isDelimiter ≤ (lines (s ++ t)).countP isDelimiter := by
  induction s using line_induction with
  | nil => exact le_rfl
  | line l s hl hend ih =>
    rcases hl.endsLine_or_lf_notMem with hend' | hlf
    · rw [List.append_assoc, hl.lines_append (Or.inl hend'), List.countP_cons]
      omega
    · rcases hend with hend | rfl
      · exact absurd (List.mem_of_getLast? (hend.resolve_left hl.ne_nil)) hlf
      · rw [List.append_nil]
        cases ht : lines t with
        | nil => exact Nat.zero_le _
        | cons k ks =>
          have hblank : isDelimiter k = false :=
            isDelimiter_eq_false_of_blank (h k (by rw [ht, List.head?_cons]))
          rw [lines_append_of_notMem hlf ht, List.countP_cons, List.countP_cons, hblank]
          simp

/-- Preparing makes no delimiter line where the fences become elements. -/
theorem countP_prepared_le (hshown : ∀ f, ∃ r, shown f = '<' :: r ∧ '\n' ∉ r)
    (h : IsSegmentation segs) :
    (lines (segs.flatMap (prepareSegment (some shown)))).countP isDelimiter ≤
      (lines (segs.flatMap Segment.raw)).countP isDelimiter := by
  induction segs with
  | nil => exact le_rfl
  | cons x segs ih =>
    have hok := h.ok x List.mem_cons_self
    have hrest := ih ⟨fun y hy => h.ok y (List.mem_cons_of_mem _ hy), h.meets.tail⟩
    rw [List.flatMap_cons, List.flatMap_cons]
    cases x with
    | text s =>
      have hs := countP_isDelimiter_eq (retouched_escapeComments s).forall₂_lines
      rcases endsLine_of_meets h.meets with hend | rfl
      · rw [prepareSegment, lines_append (endsLine_escapeComments hend), List.countP_append,
          Segment.raw, lines_append hend, List.countP_append, ← hs]
        omega
      · simp only [prepareSegment, Segment.raw, List.flatMap_nil, List.append_nil, hs, le_rfl]
    | fence f =>
      obtain ⟨-, r, hlines⟩ := exists_lines_prepareSegment hshown hok
      have hline : isDelimiter (f.indent ++ '<' :: r) = false :=
        IsSolid.isDelimiter_eq_false ⟨'<', by simp, by decide⟩
      have hblank : isDelimiter ['\n'] = false := by decide
      rw [hlines, List.countP_cons_of_neg (by simp [hblank]),
        List.countP_cons_of_neg (by simp [hline])]
      exact hrest.trans (countP_lines_le_append (startsBlank_of_isSegmentation h) f.raw)

/-- Preparing makes no delimiter of the first line where the fences become elements. -/
theorem head?_prepared (hshown : ∀ f, ∃ r, shown f = '<' :: r ∧ '\n' ∉ r)
    (h : IsSegmentation segs)
    (hl : (lines (segs.flatMap (prepareSegment (some shown)))).head? = some l)
    (hdelimiter : isDelimiter l = true) :
    ∃ k, (lines (segs.flatMap Segment.raw)).head? = some k ∧ isDelimiter k = true := by
  cases segs with
  | nil => cases hl
  | cons x segs =>
    have hok := h.ok x List.mem_cons_self
    rw [List.flatMap_cons] at hl ⊢
    cases x with
    | text s =>
      have halike := (retouched_escapeComments s).forall₂_lines
      obtain ⟨k, ks, hs⟩ : ∃ k ks, lines s = k :: ks := by
        refine List.exists_cons_of_ne_nil fun hnil => hok.1 ?_
        rw [← flatten_lines s, hnil, List.flatten_nil]
      rw [hs, List.forall₂_cons_left_iff] at halike
      obtain ⟨m, ms, hkm, -, hescaped⟩ := halike
      rcases endsLine_of_meets h.meets with hend | rfl
      · rw [prepareSegment, lines_append (endsLine_escapeComments hend), hescaped] at hl
        obtain rfl : m = l := Option.some.inj hl
        rw [Segment.raw, lines_append hend, hs]
        exact ⟨k, rfl, hkm.isDelimiter_eq.trans hdelimiter⟩
      · rw [List.flatMap_nil, List.append_nil, prepareSegment, hescaped] at hl
        obtain rfl : m = l := Option.some.inj hl
        rw [List.flatMap_nil, List.append_nil, Segment.raw, hs]
        exact ⟨k, rfl, hkm.isDelimiter_eq.trans hdelimiter⟩
    | fence f =>
      obtain ⟨-, r, hlines⟩ := exists_lines_prepareSegment hshown hok
      obtain rfl : ['\n'] = l := by simpa [hlines] using hl
      exact absurd hdelimiter (by decide)

/-- Without elements for the fences, preparing changes solid stretches only. -/
theorem retouched_prepareBody_none (body : Text) : Retouched body (prepareBody none body) := by
  have hpieces (segs : List Segment) :
      Retouched (segs.flatMap Segment.raw) (segs.flatMap (prepareSegment none)) := by
    induction segs with
    | nil => exact .nil
    | cons x segs ih =>
      rw [List.flatMap_cons, List.flatMap_cons]
      refine Retouched.append ?_ ih
      cases x with
      | text s => exact retouched_escapeComments s
      | fence f => exact Retouched.refl f.raw
  simpa [prepareBody, flatMap_raw_segments] using hpieces (segments body)

/-! ### Front matter -/

/-- A text with no more delimiter lines than one without front matter has none either, if its first
line is a delimiter only where the other one's is. -/
theorem frontMatter?_eq_none_of_countP_le (h : frontMatter? s = none)
    (hcount : (lines t).countP isDelimiter ≤ (lines s).countP isDelimiter)
    (hhead : ∀ l, (lines t).head? = some l → isDelimiter l = true →
      ∃ k, (lines s).head? = some k ∧ isDelimiter k = true) : frontMatter? t = none := by
  refine frontMatter?_eq_none_iff.2 fun l ls ht hl => ?_
  obtain ⟨k, hk, hdelimiter⟩ := hhead l (by rw [ht, List.head?_cons]) hl
  obtain ⟨ks, hs⟩ := List.head?_eq_some_iff.1 hk
  have hrest := frontMatter?_eq_none_iff.1 h k ks hs hdelimiter
  have hnone : ks.countP isDelimiter = 0 := by
    rw [List.countP_eq_zero]
    simpa using hrest
  rw [ht, hs, List.countP_cons_of_pos hl, List.countP_cons_of_pos hdelimiter, hnone,
    Nat.add_le_add_iff_right, Nat.le_zero, List.countP_eq_zero] at hcount
  simpa using hcount

/-- Preparing brings no front matter about. -/
theorem frontMatter?_prepareBody {show? : Option (Fence → Text)}
    (hshow : ∀ shown ∈ show?, ∀ f, ∃ r, shown f = '<' :: r ∧ '\n' ∉ r)
    (h : frontMatter? text = none) : frontMatter? (prepareBody show? text) = none := by
  cases show? with
  | none =>
    have halike := (retouched_prepareBody_none text).forall₂_lines
    refine frontMatter?_eq_none_of_countP_le h (countP_isDelimiter_eq halike).ge
      fun l hl hdelimiter => ?_
    obtain ⟨ms, hms⟩ := List.head?_eq_some_iff.1 hl
    rw [hms, List.forall₂_cons_right_iff] at halike
    obtain ⟨k, ks, hkl, -, hks⟩ := halike
    exact ⟨k, by rw [hks, List.head?_cons], hkl.isDelimiter_eq.trans hdelimiter⟩
  | some shown =>
    have hshown := hshow shown rfl
    have hsegs := isSegmentation_segments text
    have hcount := countP_prepared_le hshown hsegs
    have hhead {l : Text} := head?_prepared hshown hsegs (l := l)
    rw [flatMap_raw_segments] at hcount
    rw [flatMap_raw_segments] at hhead
    exact frontMatter?_eq_none_of_countP_le h hcount fun l => hhead

/-- A prepared document has the front matter of the document, with the prepared body behind it. -/
theorem frontMatter?_prepareWith {show? : Option (Fence → Text)}
    (hshow : ∀ shown ∈ show?, ∀ f, ∃ r, shown f = '<' :: r ∧ '\n' ∉ r) (text : Text) :
    frontMatter? (prepareWith show? text) =
      (frontMatter? text).map fun f => { f with body := prepareBody show? f.body } := by
  rw [prepareWith]
  cases h : frontMatter? text with
  | none => exact frontMatter?_prepareBody hshow h
  | some f => exact frontMatter?_block_append h (by intro hnil; rw [hnil]; rfl)

/-- What is found of the front matter of a document is found in the prepared document, with code
highlighted or not. It is the first line and the text up to the first later delimiter line. -/
theorem locate?_prepare (isHighlighting : Bool) (text : Text) :
    locate? (prepare isHighlighting text) = locate? text ∧
      (locate? text).isSome ∧
      ∀ yaml start, locate? text = some (some (yaml, start)) → ∃ first inner closing after,
        lines text = first :: (inner ++ closing :: after) ∧
        isDelimiter first = true ∧ isDelimiter closing = true ∧
        (∀ l ∈ inner, isDelimiter l = false) ∧
        yaml = inner.flatten ∧ takeBytes start text = first ++ (yaml ++ closing) := by
  have hshow : ∀ shown ∈ (if isHighlighting then some Highlight.element else none),
      ∀ f, ∃ r, shown f = '<' :: r ∧ '\n' ∉ r := by
    cases isHighlighting with
    | false => simp
    | true => simpa using Highlight.exists_element_eq
  simp only [locate?_eq, prepare, frontMatter?_prepareWith hshow, Option.map_map, Option.some.injEq,
    Option.isSome_some, true_and]
  refine ⟨rfl, fun yaml start hlocate => ?_⟩
  obtain ⟨f, hf, heq⟩ := Option.map_eq_some_iff.1 hlocate
  obtain ⟨rfl, rfl⟩ := Prod.mk.inj heq
  obtain ⟨inner, after, hlines, hopened, hclosed, hinner, hyaml, -⟩ := frontMatter?_eq_some_iff.1 hf
  refine ⟨f.opened, inner, f.closed, after, hlines, hopened, hclosed, hinner, hyaml, ?_⟩
  rw [← block_append_body hf, takeBytes_byteSize_append, FrontMatter.block, List.append_assoc]

end DocPreview.Artifact
