import DocPreview.Proofs.Document.Segmentation

/-!
# Where the fences of a document begin and end

A document is cut into fences by looking for one line at a time: the first line that opens a
fence, then the first later line that closes it, then again the first line that opens one. The
relation `Delimited` says this without a state and without positions. It holds of exactly one
sequence of pieces for any lines, and `segments` gives that sequence. So a line between two fences
opens none, a line inside a fence does not close it, and no other line has a part in the cut.

The pieces are also a partition of the document. Each of them is read as itself when it stands
alone, since a sequence of one piece is a segmentation.

The body of a fence is meant to be the text between its opening and its closing line without the
final line break. It is that text without all line feeds and carriage returns at its end, so blank
lines at the end of the code are lost.

## Main definitions

* `Opening.Opens`: the lines with the parts of an opening.
* `Delimited`: the pieces of a sequence of lines, fence by fence.
* `Fence.inner`: the text between the opening and the closing line of a fence.
* `dropLineBreak`: a text without its final line break.

## Main results

* `segments_eq_iff_delimited`: a document is cut at its first opening line, the first line that
  closes that fence, and so on.
* `segments_partition`: the pieces make up the document, alternate, and are stable.
* `inner_eq_body_append`: what the body of a fence is without, and when this is one line break.
-/

namespace DocPreview.Document

open Text

/-! ### The parts of an opening line -/

/-- The line `l` begins, after the indentation, with a run of at least three markers, and the rest
of the line is the info string. -/
structure Opening.Opens (o : Opening) (l : Text) : Prop where
  indent : ∀ c ∈ o.indent, isBlank c
  marker : isMarker o.marker
  size : 3 ≤ o.size
  parts : ∃ r, r.head? ≠ some o.marker ∧ o.info = trim r ∧
    l = o.indent ++ (List.replicate o.size o.marker ++ r)

/-- A run of markers stays when the line end behind it goes. -/
theorem dropEndWhile_replicate_append {m : Char} (hm : isMarker m) (n : Nat) (r : Text) :
    dropEndWhile isLineEnd (List.replicate n m ++ r) =
      List.replicate n m ++ dropEndWhile isLineEnd r := by
  induction n with
  | zero => rfl
  | succ n ih =>
    simp only [List.replicate_succ, List.cons_append, dropEndWhile_marker_cons hm, ih]

theorem opening?_eq_some_iff_opens {l : Text} {o : Opening} :
    opening? l = some o ↔ o.Opens l := by
  rw [opening?_eq_some_iff]
  constructor
  · rintro ⟨hm, hn, hindent, r, hhead, hinfo, hl⟩
    obtain ⟨b, hb, hend⟩ := exists_of_dropEndWhile isLineEnd l
    have hblank : ∀ c ∈ b, isBlank c := fun c hc => isBlank_of_isLineEnd (hend c hc)
    refine ⟨hindent, hm, hn, r ++ b, ?_, by rw [trim_append_of_blank hblank, hinfo], ?_⟩
    · rw [List.head?_append, ne_eq, Option.or_eq_some_iff]
      rintro (h | ⟨-, h⟩)
      · exact hhead h
      · have hmarker := hend _ (List.mem_of_head? h)
        rw [isLineEnd_eq_false_of_isMarker hm] at hmarker
        cases hmarker
    · rw [hb, hl]
      simp only [List.append_assoc]
  · rintro ⟨hindent, hm, hn, r, hhead, hinfo, rfl⟩
    obtain ⟨b, hb, hend⟩ := exists_of_dropEndWhile isLineEnd r
    have hblank : ∀ c ∈ b, isBlank c := fun c hc => isBlank_of_isLineEnd (hend c hc)
    refine ⟨hm, hn, hindent, dropEndWhile isLineEnd r, fun h => hhead ?_, ?_, ?_⟩
    · rw [hb, List.head?_append, h, Option.some_or]
    · rw [hinfo, hb, trim_append_of_blank hblank, ← hb]
    · have hrun := dropEndWhile_replicate_append hm o.size r
      have hne : dropEndWhile isLineEnd (List.replicate o.size o.marker ++ r) ≠ [] := by
        rw [hrun, ne_eq, List.append_eq_nil_iff, List.replicate_eq_nil_iff]
        omega
      rw [dropEndWhile_append_of_ne_nil hne, hrun]

/-! ### The cut -/

/-- The pieces of the lines `ls`, in front of which `rest` is left of the line that closed the
fence before them. -/
inductive Delimited : Text → List Text → List Segment → Prop
  /-- No line opens a fence. -/
  | plain {rest ls} (hplain : ∀ l ∈ ls, ¬ OpensFence l) :
      Delimited rest ls (markup (rest ++ ls.flatten))
  /-- The line `head` is the first to open a fence, and no later line closes it. -/
  | unclosed {rest before head inner} {o : Opening} (hplain : ∀ l ∈ before, ¬ OpensFence l)
      (hhead : o.Opens head) (hinner : ∀ l ∈ inner, ¬ ClosesFence o.marker o.size l) :
      Delimited rest (before ++ head :: inner)
        (markup (rest ++ before.flatten) ++
          [.fence
            { raw := head ++ inner.flatten
              indent := o.indent
              info := o.info
              body := dropEndWhile isLineEnd inner.flatten }])
  /-- The line `head` is the first to open a fence, and the first later line to close it is made
  of the white space `indent`, a run of `k` markers and the white space `rest'`. -/
  | closed {rest before head inner indent k rest' ls segs} {o : Opening}
      (hplain : ∀ l ∈ before, ¬ OpensFence l)
      (hhead : o.Opens head) (hinner : ∀ l ∈ inner, ¬ ClosesFence o.marker o.size l)
      (hindent : ∀ c ∈ indent, isBlank c) (hsize : o.size ≤ k) (hrest : ∀ c ∈ rest', isBlank c)
      (hlater : Delimited rest' ls segs) :
      Delimited rest
        (before ++ head :: (inner ++ (indent ++ (List.replicate k o.marker ++ rest')) :: ls))
        (markup (rest ++ before.flatten) ++
          .fence
            { raw := head ++ inner.flatten ++ (indent ++ List.replicate k o.marker)
              indent := o.indent
              info := o.info
              body := dropEndWhile isLineEnd inner.flatten } :: segs)

/-- The pieces that the scan finds in lines behind the rest of a closing line. -/
def piecesFrom (rest : Text) (ls : List Text) : List Segment :=
  markup (rest ++ (scan none ls).current) ++ (scan none ls).later

theorem segments_eq_piecesFrom (text : Text) : segments text = piecesFrom [] (lines text) := rfl

/-- A line that closes a fence is cut behind its markers. -/
theorem trimEnd_closing {m : Char} (hm : isMarker m) {k : Nat} (hk : 0 < k) (indent : Text)
    {rest : Text} (hrest : ∀ c ∈ rest, isBlank c) :
    trimEnd (indent ++ (List.replicate k m ++ rest)) = indent ++ List.replicate k m := by
  rw [← List.append_assoc, trimEnd, dropEndWhile_append_of_pos hrest, dropEndWhile_eq_self_iff]
  intro c hc
  rw [List.getLast?_append, List.getLast?_replicate, if_neg (by omega), Option.some_or] at hc
  rw [← Option.some.inj hc, isBlank_eq_false_of_isMarker hm]
  exact Bool.false_ne_true

/-- The scan finds what the relation says. -/
theorem Delimited.piecesFrom_eq {rest : Text} {ls : List Text} {segs : List Segment}
    (h : Delimited rest ls segs) : piecesFrom rest ls = segs := by
  induction h with
  | plain hplain =>
    have hscan := scan_none_append (fun l hl => opening?_eq_none_iff.2 (hplain l hl)) []
    rw [List.append_nil] at hscan
    simp [piecesFrom, hscan, scan]
  | @unclosed rest before head inner o hplain hhead hinner =>
    have hopen := opening?_eq_some_iff_opens.2 hhead
    obtain ⟨hm, hn⟩ := marker_and_size_of_opening? hopen
    have hnone : ∀ l ∈ inner, o.closedBy l = false := fun l hl =>
      Bool.eq_false_iff.2 fun hc => hinner l hl ((closedBy_iff hm hn).1 hc)
    have hscan := scan_some_append hnone []
    rw [List.append_nil] at hscan
    rw [piecesFrom, scan_none_append fun l hl => opening?_eq_none_iff.2 (hplain l hl)]
    simp [scan, hopen, hscan, Opening.fence]
  | @closed rest before head inner indent k rest' ls segs o hplain hhead hinner hindent hsize
      hrest _ ih =>
    have hopen := opening?_eq_some_iff_opens.2 hhead
    obtain ⟨hm, hn⟩ := marker_and_size_of_opening? hopen
    have hnone : ∀ l ∈ inner, o.closedBy l = false := fun l hl =>
      Bool.eq_false_iff.2 fun hc => hinner l hl ((closedBy_iff hm hn).1 hc)
    have hclosed : o.closedBy (indent ++ (List.replicate k o.marker ++ rest')) = true :=
      (closedBy_iff hm hn).2 ⟨indent, k, rest', hindent, hsize, hrest, rfl⟩
    have htrim := trimEnd_closing hm (hn.trans_le hsize) indent hrest
    have hdrop : (indent ++ (List.replicate k o.marker ++ rest')).drop
        (indent ++ List.replicate k o.marker).length = rest' := by
      rw [← List.append_assoc, List.drop_left]
    rw [piecesFrom, scan_none_append fun l hl => opening?_eq_none_iff.2 (hplain l hl)]
    simp only [scan, hopen, scan_some_append hnone, hclosed, htrim, hdrop, ↓reduceIte,
      List.append_nil, Opening.fence, ← ih, piecesFrom]

/-- Any lines are cut in some way. -/
theorem exists_delimited (rest : Text) (ls : List Text) : ∃ segs, Delimited rest ls segs := by
  cases hfirst : ls.find? fun l => (opening? l).isSome with
  | none =>
    rw [List.find?_eq_none] at hfirst
    exact ⟨_, .plain fun l hl => mt isSome_opening?_iff.2 (hfirst l hl)⟩
  | some head =>
    obtain ⟨hsome, before, after, hls, hbefore⟩ := List.find?_eq_some_iff_append.1 hfirst
    obtain ⟨o, ho⟩ := Option.isSome_iff_exists.1 hsome
    have hhead : o.Opens head := opening?_eq_some_iff_opens.1 ho
    obtain ⟨hm, hn⟩ := marker_and_size_of_opening? ho
    have hplain : ∀ l ∈ before, ¬ OpensFence l := fun l hl =>
      mt isSome_opening?_iff.2 (by simpa using hbefore l hl)
    cases hclose : after.find? o.closedBy with
    | none =>
      rw [List.find?_eq_none] at hclose
      subst hls
      exact ⟨_, .unclosed hplain hhead fun l hl => mt (closedBy_iff hm hn).2 (hclose l hl)⟩
    | some closing =>
      obtain ⟨hclosed, inner, later, hafter, hinner⟩ := List.find?_eq_some_iff_append.1 hclose
      obtain ⟨indent, k, rest', hindent, hsize, hrest, rfl⟩ := (closedBy_iff hm hn).1 hclosed
      have hopen : ∀ l ∈ inner, ¬ ClosesFence o.marker o.size l := fun l hl =>
        mt (closedBy_iff hm hn).2 (by simpa using hinner l hl)
      have hshorter : later.length < ls.length := by
        simp only [hls, hafter, List.length_append, List.length_cons]
        omega
      obtain ⟨segs, hsegs⟩ := exists_delimited rest' later
      subst hls hafter
      exact ⟨_, .closed hplain hhead hopen hindent hsize hrest hsegs⟩
termination_by ls.length

/-- A document is cut at its first opening line, at the first later line that closes the fence,
and so on from there. -/
theorem segments_eq_iff_delimited {text : Text} {segs : List Segment} :
    segments text = segs ↔ Delimited [] (lines text) segs := by
  rw [segments_eq_piecesFrom]
  constructor
  · rintro rfl
    obtain ⟨segs, hsegs⟩ := exists_delimited [] (lines text)
    rwa [hsegs.piecesFrom_eq]
  · exact Delimited.piecesFrom_eq

/-! ### The partition -/

/-- One of the two pieces is a text and the other a fence. -/
def Segment.Alternates : Segment → Segment → Prop
  | .text _, .fence _ => True
  | .fence _, .text _ => True
  | _, _ => False

/-- A piece of a document is read as itself when it stands alone. -/
theorem segments_raw_of_ok {x : Segment} (h : x.Ok) : segments x.raw = [x] := by
  have hx : IsSegmentation [x] := isSegmentation_nil.cons h fun _ hy => nomatch hy
  have hread := segments_flatMap_raw hx
  rwa [List.flatMap_cons, List.flatMap_nil, List.append_nil] at hread

/-- The pieces make up the document, none of its texts is empty, texts and fences alternate, and
each piece alone is cut into itself. -/
theorem segments_partition (text : Text) :
    (segments text).flatMap Segment.raw = text ∧
    (∀ s, .text s ∈ segments text → s ≠ []) ∧
    (segments text).IsChain Segment.Alternates ∧
    ∀ x ∈ segments text, segments x.raw = [x] := by
  obtain ⟨hok, hmeets⟩ := isSegmentation_segments text
  refine ⟨flatMap_raw_segments text, fun s hs => (hok _ hs).1, hmeets.imp ?_, fun x hx =>
    segments_raw_of_ok (hok x hx)⟩
  intro x y hxy
  cases x with
  | text s => cases y with
    | text t => exact hxy.elim
    | fence g => trivial
  | fence f => cases y with
    | text t => trivial
    | fence g => exact hxy.elim

/-! ### The body -/

/-- The lines of a fence behind the first one and before the last one. -/
def Fence.inner (f : Fence) : Text := (lines f.raw).tail.dropLast.flatten

/-- The line breaks that can end a line. -/
def IsLineBreak (b : Text) : Prop := b = ['\n'] ∨ b = ['\r', '\n']

/-- A text without its final line break. -/
def dropLineBreak (s : Text) : Text :=
  if s.getLast? = some '\n' then
    if s.dropLast.getLast? = some '\r' then s.dropLast.dropLast else s.dropLast
  else s

theorem IsLineBreak.isLineEnd {b : Text} (h : IsLineBreak b) : ∀ c ∈ b, isLineEnd c := by
  obtain rfl | rfl := h <;> exact List.all_eq_true.1 (by decide)

/-- A carriage return in front of a line feed belongs to the line break. -/
theorem dropLineBreak_append {s b : Text} (hb : IsLineBreak b) (hs : s.getLast? ≠ some '\r') :
    dropLineBreak (s ++ b) = s := by
  obtain rfl | rfl := hb
  · simp [dropLineBreak, hs]
  · rw [show s ++ ['\r', '\n'] = s ++ ['\r'] ++ ['\n'] by simp]
    simp [dropLineBreak]

/-- A text that ends a line has a final line break. -/
theorem exists_lineBreak {s : Text} (h : s.getLast? = some '\n') :
    ∃ b, IsLineBreak b ∧ s = dropLineBreak s ++ b := by
  obtain ⟨t, rfl⟩ := List.getLast?_eq_some_iff.1 h
  by_cases ht : t.getLast? = some '\r'
  · obtain ⟨t, rfl⟩ := List.getLast?_eq_some_iff.1 ht
    exact ⟨['\r', '\n'], Or.inr rfl, by simp [dropLineBreak]⟩
  · exact ⟨['\n'], Or.inl rfl, by simp [dropLineBreak, ht]⟩

/-- The body of a closed fence is the text between its lines without all line ends behind it. -/
theorem Fence.IsClosed.body_eq {f : Fence} (h : f.IsClosed) :
    f.body = dropEndWhile isLineEnd f.inner ∧ EndsLine f.inner := by
  obtain ⟨o, head, inner, closing, -, -, -, -, hlines, hf⟩ := h
  have hinner : f.inner = inner.flatten := by
    rw [Fence.inner, hlines, List.tail_cons, List.dropLast_concat]
  have hend : EndsLine (head :: inner).flatten := endsLine_flatten_of_lines_eq hlines
  rw [hinner]
  exact ⟨by rw [hf]; rfl, hend.of_append⟩

theorem not_isLineEnd_of_getLast? {s : Text} {c : Char}
    (h : (dropEndWhile isLineEnd s).getLast? = some c) : ¬ isLineEnd c :=
  dropEndWhile_eq_self_iff.1 (dropEndWhile_idem isLineEnd s) c h

/-- One line break is all that is lost exactly if no line end stands in front of it. -/
theorem eq_append_lineBreak_iff {s t : Text} (hend : EndsLine s)
    (ht : t = dropEndWhile isLineEnd s) :
    (s = [] ∧ t = [] ∨ ∃ b, IsLineBreak b ∧ s = t ++ b) ↔
      ∀ c, (dropLineBreak s).getLast? = some c → ¬ isLineEnd c := by
  constructor
  · rintro (⟨rfl, -⟩ | ⟨b, hb, heq⟩)
    · exact nofun
    · have hlast (c : Char) (hc : t.getLast? = some c) : ¬ isLineEnd c :=
        not_isLineEnd_of_getLast? (ht ▸ hc)
      rw [heq, dropLineBreak_append hb fun hcr => hlast _ hcr (by decide)]
      exact hlast
  · intro hlast
    by_cases hs : s = []
    · exact Or.inl ⟨hs, by rw [ht, hs]; rfl⟩
    · obtain ⟨b, hb, heq⟩ := exists_lineBreak (hend.resolve_left hs)
      have hkeep : dropEndWhile isLineEnd s = dropLineBreak s := by
        rw [heq, dropEndWhile_append_of_pos hb.isLineEnd, ← heq]
        exact dropEndWhile_eq_self_iff.2 hlast
      exact Or.inr ⟨b, hb, by rw [ht, hkeep, ← heq]⟩

/-! ### The code -/

theorem unindentLine_append_lineEnds {e : Text} (he : ∀ c ∈ e, isLineEnd c) (n : Nat) (s : Text) :
    unindentLine n (s ++ e) = unindentLine n s ++ e := by
  induction s generalizing n with
  | nil =>
    cases n with
    | zero => simp only [unindentLine, List.nil_append]
    | succ n =>
      cases e with
      | nil => rfl
      | cons c e =>
        have hc : ¬ (c = ' ' || c = '\t') := by
          intro hc
          have hend := he c List.mem_cons_self
          obtain rfl | rfl : c = ' ' ∨ c = '\t' := by simpa using hc
          all_goals exact absurd hend (by decide)
        rw [List.nil_append, unindentLine, if_neg hc]
        rfl
  | cons c s ih =>
    cases n with
    | zero => simp only [unindentLine]
    | succ n =>
      rw [List.cons_append, unindentLine, unindentLine]
      split_ifs
      · exact ih n
      · rfl

/-- Taking indentation away changes nothing in line ends behind a text. -/
theorem flatMap_unindentLine_append {s e : Text} (hs : ∀ c, s.getLast? = some c → ¬ isLineEnd c)
    (he : ∀ c ∈ e, isLineEnd c) (n : Nat) :
    (lines (s ++ e)).flatMap (unindentLine n) = (lines s).flatMap (unindentLine n) ++ e := by
  have hends : ∀ l ∈ lines e, unindentLine n l = l := by
    intro l hl
    have hline : ∀ c ∈ l, isLineEnd c := fun c hc => he c ((infix_of_mem_lines hl).subset hc)
    have hself := unindentLine_append_lineEnds hline n []
    rwa [List.nil_append, show unindentLine n [] = [] by cases n <;> rfl] at hself
  have hkept : (lines e).flatMap (unindentLine n) = e := by
    rw [List.flatMap_congr hends, List.flatMap_id', flatten_lines]
  induction s using line_induction with
  | nil => exact hkept
  | line l s hl hend ih =>
    by_cases hnil : s = []
    · -- the line ends behind the last line begin in it
      subst hnil
      rw [List.append_nil] at hs ⊢
      have hlf : '\n' ∉ l := hl.endsLine_or_lf_notMem.resolve_left fun h =>
        hs _ (h.resolve_left hl.ne_nil) (by decide)
      rw [hl.lines_eq, List.flatMap_singleton]
      cases hlines : lines e with
      | nil =>
        obtain rfl : e = [] := by rw [← flatten_lines e, hlines]; rfl
        rw [List.append_nil, List.append_nil, hl.lines_eq, List.flatMap_singleton]
      | cons k ks =>
        have hk : ∀ c ∈ k, isLineEnd c := fun c hc =>
          he c ((infix_of_mem_lines (hlines ▸ List.mem_cons_self)).subset hc)
        rw [hlines, List.flatMap_cons, hends k (hlines ▸ List.mem_cons_self)] at hkept
        rw [lines_append_of_notMem hlf hlines, List.flatMap_cons,
          unindentLine_append_lineEnds hk, List.append_assoc, hkept]
    · have hl_end : EndsLine l := hend.resolve_right hnil
      rw [List.getLast?_append_of_ne_nil l hnil] at hs
      rw [List.append_assoc, hl.lines_append (Or.inl hl_end), hl.lines_append (Or.inl hl_end),
        List.flatMap_cons, List.flatMap_cons, ih hs, List.append_assoc]

/-- A fence that is not closed has all its lines behind the first one in its body. -/
theorem Fence.IsUnclosed.body_eq {f : Fence} (h : f.IsUnclosed) :
    f.body = dropEndWhile isLineEnd (lines f.raw).tail.flatten := by
  obtain ⟨o, head, inner, -, -, hlines, hf⟩ := h
  rw [hlines, hf]
  rfl

/-- The text between the lines of a closed fence is its body and the line ends behind it, which its
code lacks as well. It is the body and no more than one line break exactly if the text without its
final line break has no line end behind it. -/
theorem inner_eq_body_append {text : Text} {f : Fence} (hf : .fence f ∈ segments text)
    (hclosed : ¬ f.IsUnclosed) :
    (∃ e, (∀ c ∈ e, isLineEnd c) ∧ f.inner = f.body ++ e ∧
      Fence.code { f with body := f.inner } = f.code ++ e) ∧
    (∀ c, f.body.getLast? = some c → ¬ isLineEnd c) ∧
    ((f.inner = [] ∧ f.body = [] ∨ ∃ b, IsLineBreak b ∧ f.inner = f.body ++ b) ↔
      ∀ c, (dropLineBreak f.inner).getLast? = some c → ¬ isLineEnd c) := by
  have hok : f.IsClosed := ((isSegmentation_segments text).ok _ hf).resolve_right hclosed
  obtain ⟨hbody, hend⟩ := hok.body_eq
  have hlast (c : Char) (hc : f.body.getLast? = some c) : ¬ isLineEnd c :=
    not_isLineEnd_of_getLast? (hbody ▸ hc)
  refine ⟨?_, hlast, eq_append_lineBreak_iff hend hbody⟩
  obtain ⟨e, hinner, he⟩ := exists_of_dropEndWhile isLineEnd f.inner
  rw [← hbody] at hinner
  refine ⟨e, he, hinner, ?_⟩
  rw [Fence.code, hinner]
  exact flatMap_unindentLine_append hlast he (byteSize f.indent)

/-- A fence with a line of code and two blank lines. -/
def blankEnding : Fence where
  raw := "  ~~~ sh\n  ls\n\n\r\n~~~".toList
  indent := "  ".toList
  info := "sh".toList
  body := "  ls".toList

theorem inner_eq_body_append_blankEnding :
    .fence blankEnding ∈ segments blankEnding.raw ∧ ¬ blankEnding.IsUnclosed ∧
      blankEnding.inner = "  ls\n\n\r\n".toList ∧
      ∃ e, (∀ c ∈ e, isLineEnd c) ∧ blankEnding.inner = blankEnding.body ++ e ∧
        Fence.code { blankEnding with body := blankEnding.inner } = blankEnding.code ++ e := by
  have hmem : .fence blankEnding ∈ segments blankEnding.raw := by decide +kernel
  have hclosed : ¬ blankEnding.IsUnclosed := fun h => absurd h.body_eq (by decide +kernel)
  exact ⟨hmem, hclosed, by decide +kernel, (inner_eq_body_append hmem hclosed).1⟩

/-- A blank line at the end of the code is no part of the body. -/
theorem blank_line_is_dropped :
    let f : Fence := ⟨"```\nx\n\n```".toList, [], [], ['x']⟩
    segments "```\nx\n\n```\n".toList = [.fence f, .text ['\n']] ∧ ¬ f.IsUnclosed ∧
      f.inner = "x\n\n".toList ∧ f.code = ['x'] ∧
      ¬ (f.inner = [] ∧ f.body = [] ∨ ∃ b, IsLineBreak b ∧ f.inner = f.body ++ b) := by
  intro f
  have hsegments : segments "```\nx\n\n```\n".toList = [.fence f, .text ['\n']] := by
    decide +kernel
  have hclosed : ¬ f.IsUnclosed := fun h => absurd h.body_eq (by decide +kernel)
  have hinner : f.inner = "x\n\n".toList := by decide +kernel
  refine ⟨hsegments, hclosed, hinner, by decide +kernel, ?_⟩
  rw [hinner]
  rintro (⟨h, -⟩ | ⟨b, rfl | rfl, h⟩)
  all_goals exact absurd h (by decide)

end DocPreview.Document
