import DocPreview.Proofs.Document.Fence
import DocPreview.Proofs.Document.FrontMatter
import DocPreview.Proofs.Text.Slice

/-!
# Reading a document by offsets

A document can be read without copying it: one walk over its lines keeps the number of bytes before
the line, and before the text, the fence and the body that it is in, and a piece of the document is
cut out between two of these numbers when it is complete. Every cut is one of `slice?`, so the
readers of this file have a value only if no cut ends before it begins, behind the end of the
document or inside a character.

They have the value that the readers of `DocPreview.Document` give. The invariant of the walk says
that its offsets are the sizes of parts that make up the document up to the current line. Some
numbers are not sizes at first sight: the length of a marker run is counted in characters, an
indentation is a difference of sizes, and a line of code is cut after a number of bytes that are
blanks or tabs.

## Main definitions

* `isClosingFence?`, `Walk.next?`, `Walk.finish?`, `segmentsAt?`: the segments of a document.
* `codeAt?`: the code of a fence.
* `locate?`: the front matter, with the offset of what follows it.

## Main results

* `segmentsAt?_eq`, `codeAt?_eq`, `locate?_eq`: the readers agree with those without offsets.
-/

namespace DocPreview.Document

open Text

/-! ### Definitions -/

/-- Whether a line, without the white space at its start, closes a fence of at least `n` markers
`m`. The markers are counted as characters, and the rest is cut off after as many bytes. -/
def isClosingFence? (trimmed : Text) (m : Char) (n : Nat) : Option Bool :=
  if trimmed.head? = some m ∧ n ≤ runLength m trimmed then
    (slice? trimmed (runLength m trimmed) (byteSize trimmed)).map (·.all isBlank)
  else
    some false

/-- The marker and the length of the run that a line, without the white space at its start, opens a
fence with. -/
def detectFence? : Text → Option (Char × Nat)
  | [] => none
  | m :: r =>
    let count := runLength m (m :: r)
    if isMarker m ∧ 3 ≤ count then some (m, count) else none

/-- Where a walk over the lines of a document is. -/
structure Walk where
  /-- The marker and the length of the run that opened the fence, inside a fence. -/
  tracker : Option (Char × Nat)
  /-- The bytes before the text that is not part of a segment yet. -/
  textStart : Nat
  /-- The bytes before the last fence. -/
  fenceStart : Nat
  /-- The bytes before the second line of the last fence. -/
  bodyStart : Nat
  /-- The indentation of the last fence. -/
  indent : Text
  /-- The info string of the last fence. -/
  info : Text
  /-- The bytes before the current line. -/
  offset : Nat
  /-- The segments so far. -/
  result : List Segment

namespace Walk

/-- Where a walk begins. -/
def start : Walk := ⟨none, 0, 0, 0, [], [], 0, []⟩

/-- The walk behind a line that belongs to the current piece. -/
def skip (w : Walk) (line : Text) : Walk := { w with offset := w.offset + byteSize line }

/-- The walk behind a line that closes the fence. -/
def close? (text : Text) (w : Walk) (line : Text) : Option Walk := do
  let body ← slice? text w.bodyStart w.offset
  let stop := w.offset + byteSize (trimEnd (dropEndWhile isLineEnd line))
  let raw ← slice? text w.fenceStart stop
  let fence := Segment.fence ⟨raw, w.indent, w.info, dropEndWhile isLineEnd body⟩
  return { w.skip line with tracker := none, textStart := stop, result := w.result ++ [fence] }

/-- The text before a line that opens a fence. -/
def before? (text : Text) (w : Walk) : Option (List Segment) :=
  if w.textStart < w.offset then
    (slice? text w.textStart w.offset).map fun s => [.text s]
  else
    some []

/-- The walk behind a line that opens a fence with the marker run `run`. -/
def open? (text : Text) (w : Walk) (line : Text) (run : Char × Nat) : Option Walk := do
  let before ← w.before? text
  let content := dropEndWhile isLineEnd line
  let trimmed := trimStart content
  let width ← sub? (byteSize content) (byteSize trimmed)
  let indent ← slice? content 0 width
  let info := trim (trimmed.dropWhile (· = trimmed.headD '\x60'))
  let offset := w.offset + byteSize line
  return ⟨some run, w.textStart, w.offset, offset, indent, info, offset, w.result ++ before⟩

/-- The walk behind a line. -/
def next? (text : Text) (w : Walk) (line : Text) : Option Walk :=
  let trimmed := trimStart (dropEndWhile isLineEnd line)
  match w.tracker with
  | some (m, n) => do
    if ← isClosingFence? trimmed m n then w.close? text line else return w.skip line
  | none =>
    match detectFence? trimmed with
    | some run => w.open? text line run
    | none => return w.skip line

/-- The segments at the end of the document. -/
def finish? (text : Text) (w : Walk) : Option (List Segment) := do
  if w.tracker.isSome then
    let body := (slice? text w.bodyStart (byteSize text)).getD []
    let raw ← slice? text w.fenceStart (byteSize text)
    return w.result ++ [.fence ⟨raw, w.indent, w.info, dropEndWhile isLineEnd body⟩]
  else if w.textStart < byteSize text then
    let rest ← slice? text w.textStart (byteSize text)
    return w.result ++ [.text rest]
  else
    return w.result

/-- The segments that a walk over the rest of the lines ends with. -/
def segments? (text : Text) : Walk → List Text → Option (List Segment)
  | w, [] => w.finish? text
  | w, l :: ls => do segments? text (← w.next? text l) ls

end Walk

/-- The segments of a document, read by offsets. -/
def segmentsAt? (text : Text) : Option (List Segment) := Walk.start.segments? text (lines text)

/-- The bytes of blanks and tabs. -/
def isIndentByte (b : UInt8) : Bool := b = 0x20 || b = 0x09

/-- A line without its leading bytes that are blanks and tabs, of which at most `width` go. -/
def unindentAt? (width : Nat) (line : Text) : Option Text :=
  let strip := (((utf8 line).take width).takeWhile isIndentByte).length
  slice? line strip (byteSize line)

/-- The code of a fence, read by offsets. -/
def codeAt? (f : Fence) : Option Text := do
  return (← (lines f.body).mapM (unindentAt? (byteSize f.indent))).flatten

/-- Looks for the line that ends front matter, from the line at `offset` on. -/
def locateEnd? (text : Text) (yamlStart : Nat) : Nat → List Text → Option (Option (Text × Nat))
  | _, [] => some none
  | offset, l :: ls =>
    if trimEnd l = ['-', '-', '-'] then
      (slice? text yamlStart offset).map fun yaml => some (yaml, offset + byteSize l)
    else
      locateEnd? text yamlStart (offset + byteSize l) ls

/-- The YAML of the front matter, and the number of bytes before what follows the front matter. -/
def locate? (text : Text) : Option (Option (Text × Nat)) :=
  if '\n' ∈ text then do
    let stop := byteSize (text.takeWhile (· ≠ '\n'))
    let first ← slice? text 0 stop
    if trimEnd first = ['-', '-', '-'] then
      let rest ← slice? text (stop + 1) (byteSize text)
      locateEnd? text (stop + 1) (stop + 1) (lines rest)
    else
      return none
  else
    some none

/-! ### Lines of fences -/

theorem utf8Size_of_isMarker {m : Char} (h : isMarker m) : m.utf8Size = 1 := by
  obtain rfl | rfl : m = '\x60' ∨ m = '~' := by simpa [isMarker] using h
  all_goals rfl

/-- A run of markers has as many bytes as characters. -/
theorem byteSize_replicate {m : Char} (h : isMarker m) (n : Nat) :
    byteSize (List.replicate n m) = n := by
  induction n with
  | zero => rfl
  | succ n ih => rw [List.replicate_succ, byteSize_cons, ih, utf8Size_of_isMarker h, Nat.add_comm]

/-- A line is cut behind its marker run. -/
theorem isClosingFence?_eq {o : Opening} (hm : isMarker o.marker) (hn : 0 < o.size) (l : Text) :
    isClosingFence? (trimStart (dropEndWhile isLineEnd l)) o.marker o.size = some (o.closedBy l) := by
  obtain ⟨e, hl, he⟩ := exists_of_dropEndWhile isLineEnd l
  have hclosed : o.closedBy l = o.closedBy (dropEndWhile isLineEnd l) := by
    conv_lhs => rw [hl]
    exact closedBy_append_of_blank hm hn fun c hc => isBlank_of_isLineEnd (he c hc)
  rw [hclosed, Opening.closedBy]
  generalize trimStart (dropEndWhile isLineEnd l) = s
  obtain ⟨r, -, hdrop, hs⟩ := exists_run o.marker s
  have hrun : slice? s (runLength o.marker s) (byteSize s) = some r := by
    have h := slice?_byteSize_append (List.replicate (runLength o.marker s) o.marker) r
    rwa [byteSize_replicate hm, ← hs] at h
  rw [isClosingFence?, hrun, hdrop]
  by_cases hsize : o.size ≤ runLength o.marker s
  · have hhead : s.head? = some o.marker := by
      rw [hs]
      obtain ⟨k, hk⟩ : ∃ k, runLength o.marker s = k + 1 := ⟨_, (Nat.sub_add_cancel (by omega)).symm⟩
      rw [hk]
      rfl
    simp [hhead, hsize]
  · simp [hsize]

/-- A line opens a fence with the run that its parts say. -/
theorem detectFence?_eq (l : Text) : detectFence? (trimStart (dropEndWhile isLineEnd l)) =
    (opening? l).map fun o => (o.marker, o.size) := by
  rw [opening?, trimStart]
  cases (dropEndWhile isLineEnd l).dropWhile isBlank with
  | nil => rfl
  | cons m r =>
    simp only [detectFence?, Bool.and_eq_true, decide_eq_true_eq]
    split_ifs <;> rfl

/-- The info string and the indentation of an opening line. -/
theorem parts_of_opening? {l : Text} {o : Opening} (h : opening? l = some o) :
    dropEndWhile isLineEnd l = o.indent ++ trimStart (dropEndWhile isLineEnd l) ∧
      (trimStart (dropEndWhile isLineEnd l)).head? = some o.marker ∧
      o.info = trim ((trimStart (dropEndWhile isLineEnd l)).dropWhile (· = o.marker)) := by
  obtain ⟨hm, hn, hindent, r, hhead, hinfo, hl⟩ := opening?_eq_some_iff.1 h
  obtain ⟨k, hk⟩ : ∃ k, o.size = k + 1 := ⟨o.size - 1, by omega⟩
  have htrim : trimStart (dropEndWhile isLineEnd l) = List.replicate o.size o.marker ++ r := by
    rw [hl, trimStart, List.dropWhile_append_of_pos hindent, hk, List.replicate_succ,
      List.cons_append, List.dropWhile_cons_of_neg (by simp [isBlank_eq_false_of_isMarker hm])]
  refine ⟨?_, ?_, ?_⟩
  · rw [htrim, hl]
  · rw [htrim, hk]
    rfl
  · rw [htrim, dropWhile_replicate_append hhead, hinfo]

/-! ### The walk over a document -/

namespace Walk

/-- A walk outside fences: `cur` is the text since the last segment, which ends `pre`. -/
structure IsOutside (w : Walk) (pre cur : Text) : Prop where
  tracker : w.tracker = none
  textStart : w.textStart = byteSize pre
  offset : w.offset = byteSize pre + byteSize cur

/-- A walk in the fence that `head` opens: `body` is what the fence holds up to the current line. -/
structure IsInside (w : Walk) (o : Opening) (pre head body : Text) : Prop where
  isMarker : isMarker o.marker
  pos : 0 < o.size
  tracker : w.tracker = some (o.marker, o.size)
  fenceStart : w.fenceStart = byteSize pre
  bodyStart : w.bodyStart = byteSize pre + byteSize head
  indent : w.indent = o.indent
  info : w.info = o.info
  offset : w.offset = byteSize pre + byteSize head + byteSize body

variable {w : Walk} {o : Opening} {pre head body cur text : Text}

theorem isOutside_start : start.IsOutside [] [] := ⟨rfl, rfl, rfl⟩

theorem IsOutside.skip (h : w.IsOutside pre cur) (l : Text) :
    (w.skip l).IsOutside pre (cur ++ l) where
  tracker := h.tracker
  textStart := h.textStart
  offset := by simp only [Walk.skip, h.offset, byteSize_append, Nat.add_assoc]

theorem IsInside.skip (h : w.IsInside o pre head body) (l : Text) :
    (w.skip l).IsInside o pre head (body ++ l) where
  isMarker := h.isMarker
  pos := h.pos
  tracker := h.tracker
  fenceStart := h.fenceStart
  bodyStart := h.bodyStart
  indent := h.indent
  info := h.info
  offset := by simp only [Walk.skip, h.offset, byteSize_append, Nat.add_assoc]

/-- The text since the last segment is a segment, unless it is empty. -/
theorem IsOutside.before?_eq (h : w.IsOutside pre cur) (rest : Text) :
    w.before? (pre ++ (cur ++ rest)) = some (markup cur) := by
  rw [before?, h.textStart, h.offset, slice?_append]
  cases cur with
  | nil => simp [markup]
  | cons c cur =>
    have hc := c.utf8Size_pos
    rw [if_pos (by rw [byteSize_cons]; omega)]
    rfl

/-- A line that opens a fence is cut into its parts. -/
theorem IsOutside.open?_eq (h : w.IsOutside pre cur) {l : Text} (ho : opening? l = some o)
    (rest : Text) : ∃ w', w.open? (pre ++ (cur ++ rest)) l (o.marker, o.size) = some w' ∧
      w'.IsInside o (pre ++ cur) l [] ∧ w'.result = w.result ++ markup cur := by
  obtain ⟨hm, hn⟩ := marker_and_size_of_opening? ho
  obtain ⟨hcontent, hhead, hinfo⟩ := parts_of_opening? ho
  have hindent : slice? (dropEndWhile isLineEnd l) 0 (byteSize o.indent) = some o.indent := by
    rw [hcontent]
    exact slice?_zero_append ..
  have hwidth : sub? (byteSize (dropEndWhile isLineEnd l))
      (byteSize (trimStart (dropEndWhile isLineEnd l))) = some (byteSize o.indent) := by
    conv_lhs => enter [1]; rw [hcontent]
    exact sub?_byteSize_append ..
  refine ⟨⟨some (o.marker, o.size), w.textStart, w.offset, w.offset + byteSize l, o.indent, o.info,
    w.offset + byteSize l, w.result ++ markup cur⟩, ?_, ?_, rfl⟩
  · simp [open?, h.before?_eq, hwidth, hindent, List.headD_eq_head?_getD, hhead, hinfo]
  · exact ⟨hm, hn, rfl, by rw [h.offset, byteSize_append], by rw [h.offset, byteSize_append], rfl,
      rfl, by rw [h.offset, byteSize_append, byteSize_nil, Nat.add_zero]⟩

/-- A fence is cut out where a line closes it. -/
theorem IsInside.close?_eq (h : w.IsInside o pre head body) (l rest : Text) :
    ∃ w', w.close? (pre ++ (head ++ (body ++ (l ++ rest)))) l = some w' ∧
      w'.IsOutside (pre ++ (head ++ (body ++ trimEnd l))) (l.drop (trimEnd l).length) ∧
      w'.result = w.result ++ [.fence (o.fence head body (trimEnd l))] := by
  obtain ⟨e, hl, he⟩ := exists_of_dropEndWhile isLineEnd l
  have hkept : trimEnd (dropEndWhile isLineEnd l) = trimEnd l := by
    conv_rhs => rw [hl]
    exact (dropEndWhile_append_of_pos fun c hc => isBlank_of_isLineEnd (he c hc)).symm
  have hv : l = trimEnd l ++ l.drop (trimEnd l).length :=
    (List.prefix_iff_eq_append.1 (trimEnd_prefix_self l)).symm
  generalize l.drop (trimEnd l).length = v at hv ⊢
  have hbody : slice? (pre ++ (head ++ (body ++ (l ++ rest)))) w.bodyStart w.offset = some body := by
    rw [h.bodyStart, h.offset, ← byteSize_append, ← List.append_assoc]
    exact slice?_append ..
  have hraw : slice? (pre ++ (head ++ (body ++ (l ++ rest)))) w.fenceStart
      (w.offset + byteSize (trimEnd l)) = some (head ++ body ++ trimEnd l) := by
    refine slice?_eq_some_iff.2 ⟨pre, v ++ rest, ?_, h.fenceStart, ?_⟩
    · conv_lhs => rw [hv]
      simp only [List.append_assoc]
    · rw [h.offset, byteSize_append, byteSize_append]
      omega
  refine ⟨{ w.skip l with
    tracker := none
    textStart := w.offset + byteSize (trimEnd l)
    result := w.result ++ [.fence (o.fence head body (trimEnd l))] }, ?_, ?_, rfl⟩
  · simp only [close?, hbody, hkept, hraw, h.indent, h.info]
    rfl
  · refine ⟨rfl, ?_, ?_⟩
    · simp only [h.offset, byteSize_append, Nat.add_assoc]
    · simp only [Walk.skip, h.offset, byteSize_append, Nat.add_assoc]
      rw [← byteSize_append (trimEnd l), ← hv]

/-- Behind the last line the text since the last segment is a segment. -/
theorem IsOutside.finish?_eq (h : w.IsOutside pre cur) :
    w.finish? (pre ++ cur) = some (w.result ++ markup cur) := by
  simp only [finish?, h.tracker, h.textStart, byteSize_append, Option.isSome_none,
    Bool.false_eq_true, ↓reduceIte]
  cases cur with
  | nil => simp [markup]
  | cons c cur =>
    have hc := c.utf8Size_pos
    rw [if_pos (by rw [byteSize_cons]; omega), ← byteSize_append, slice?_byteSize_append]
    rfl

/-- Behind the last line a fence that no line closes is a segment. -/
theorem IsInside.finish?_eq (h : w.IsInside o pre head body) :
    w.finish? (pre ++ (head ++ body)) = some (w.result ++ [.fence (o.fence head body [])]) := by
  have hbody : slice? (pre ++ (head ++ body)) w.bodyStart (byteSize (pre ++ (head ++ body))) =
      some body := by
    rw [h.bodyStart, ← byteSize_append, ← List.append_assoc]
    exact slice?_byteSize_append ..
  simp only [finish?, h.tracker, h.fenceStart, hbody, slice?_byteSize_append, h.indent, h.info,
    Option.isSome_some, ↓reduceIte, Option.getD_some, Opening.fence, List.append_nil]
  rfl

/-- A walk over the rest of the lines finds what a scan of them finds. -/
theorem segments?_eq (ls : List Text) :
    (∀ w pre cur, IsOutside w pre cur → w.segments? (pre ++ (cur ++ ls.flatten)) ls =
      some (w.result ++ (markup (cur ++ (scan none ls).current) ++ (scan none ls).later))) ∧
    ∀ w o pre head body, IsInside w o pre head body →
      w.segments? (pre ++ (head ++ (body ++ ls.flatten))) ls =
        some (w.result ++ .fence (o.fence head (body ++ (scan (some o) ls).current)
          (scan (some o) ls).closing) :: (scan (some o) ls).later) := by
  induction ls with
  | nil =>
    refine ⟨fun w pre cur h => ?_, fun w o pre head body h => ?_⟩
    · simpa [scan, segments?] using h.finish?_eq
    · simpa [scan, segments?] using h.finish?_eq
  | cons l ls ih =>
    refine ⟨fun w pre cur h => ?_, fun w o pre head body h => ?_⟩
    · rw [segments?, next?, scan]
      simp only [h.tracker, detectFence?_eq, List.flatten_cons]
      cases ho : opening? l with
      | none =>
        have hrest := ih.1 _ pre (cur ++ l) (h.skip l)
        simpa [Walk.skip] using hrest
      | some o =>
        obtain ⟨w', hopen, hinside, hresult⟩ := h.open?_eq ho (l ++ ls.flatten)
        have hrest := ih.2 w' o (pre ++ cur) l [] hinside
        simp only [List.append_assoc, List.nil_append] at hrest
        simp [hopen, hrest, hresult]
    · rw [segments?, next?, scan]
      simp only [h.tracker, isClosingFence?_eq h.isMarker h.pos, List.flatten_cons]
      cases hclosed : o.closedBy l with
      | false =>
        have hrest := ih.2 _ o pre head (body ++ l) (h.skip l)
        simpa [Walk.skip] using hrest
      | true =>
        obtain ⟨w', hclose, houtside, hresult⟩ := h.close?_eq l ls.flatten
        have hrest := ih.1 w' _ _ houtside
        have htext : pre ++ (head ++ (body ++ trimEnd l)) ++
            (l.drop (trimEnd l).length ++ ls.flatten) =
              pre ++ (head ++ (body ++ (l ++ ls.flatten))) := by
          conv_rhs => rw [← List.prefix_iff_eq_append.1 (trimEnd_prefix_self l)]
          simp only [List.append_assoc]
        rw [htext] at hrest
        simp [hclose, hrest, hresult]

end Walk

/-- The segments of every document are cut at borders of characters. -/
theorem segmentsAt?_eq (text : Text) : segmentsAt? text = some (segments text) := by
  have h := (Walk.segments?_eq (lines text)).1 _ _ _ Walk.isOutside_start
  rwa [List.nil_append, List.nil_append, flatten_lines] at h

/-! ### Code -/

/-- A character is a blank or a tab exactly if its first byte is, which is then its only one. -/
theorem isIndentByte_eq {c : Char} {b : UInt8} {bs : List UInt8}
    (h : String.utf8EncodeChar c = b :: bs) :
    isIndentByte b = (c = ' ' || c = '\t') ∧ (isIndentByte b = true → bs = []) := by
  have hchar : (c = ' ' || c = '\t') = (c.toNat = 32 || c.toNat = 9) := by
    simp only [← Char.toNat_inj]
    rfl
  have hbyte : isIndentByte b = (b.toNat = 32 || b.toNat = 9) := by
    simp only [isIndentByte, ← UInt8.toNat_inj]
    rfl
  rw [hchar, hbyte]
  rcases utf8EncodeChar_cases c with ⟨hc, hcode⟩ | ⟨hc, b', bs', hcode, hb⟩
  · obtain ⟨rfl, rfl⟩ := List.cons.inj (h.symm.trans hcode)
    have hcode : (UInt8.ofNat c.toNat).toNat = c.toNat := by
      rw [UInt8.toNat_ofNat']
      omega
    exact ⟨by rw [hcode], fun _ => rfl⟩
  · obtain ⟨rfl, rfl⟩ := List.cons.inj (h.symm.trans hcode)
    have hneither (n : Nat) (hn : 128 ≤ n) : (decide (n = 32) || decide (n = 9)) = false := by
      simp only [Bool.or_eq_false_iff, decide_eq_false_iff_not]
      omega
    rw [hneither _ hc, hneither _ hb]
    exact ⟨rfl, fun h => by cases h⟩

/-- The bytes that go are the characters that go. -/
theorem exists_of_unindentLine (width : Nat) (line : Text) :
    ∃ a, line = a ++ unindentLine width line ∧
      byteSize a = (((utf8 line).take width).takeWhile isIndentByte).length := by
  induction line generalizing width with
  | nil => exact ⟨[], by cases width <;> rfl, by simp [utf8]⟩
  | cons c line ih =>
    cases width with
    | zero => exact ⟨[], rfl, by simp⟩
    | succ width =>
      obtain ⟨b, bs, hcode⟩ : ∃ b bs, String.utf8EncodeChar c = b :: bs := by
        refine List.exists_cons_of_length_pos ?_
        rw [String.length_utf8EncodeChar]
        exact c.utf8Size_pos
      obtain ⟨hbyte, hone⟩ := isIndentByte_eq hcode
      rw [unindentLine, utf8, List.flatMap_cons, ← utf8, hcode, List.cons_append,
        List.take_succ_cons, ← hbyte]
      cases hb : isIndentByte b with
      | false => exact ⟨[], by simp, by simp [hb]⟩
      | true =>
        obtain ⟨a, hline, hsize⟩ := ih width
        have hc : c.utf8Size = 1 := by rw [← String.length_utf8EncodeChar, hcode, hone hb]; rfl
        refine ⟨c :: a, ?_, ?_⟩
        · rw [if_pos rfl, List.cons_append, ← hline]
        · rw [hone hb, List.nil_append, List.takeWhile_cons_of_pos hb, List.length_cons, ← hsize,
            byteSize_cons, hc, Nat.add_comm]

theorem unindentAt?_eq (width : Nat) (line : Text) :
    unindentAt? width line = some (unindentLine width line) := by
  obtain ⟨a, hline, hsize⟩ := exists_of_unindentLine width line
  rw [unindentAt?, ← hsize]
  conv_lhs => rw [hline]
  exact slice?_byteSize_append ..

/-- The lines of every fence are cut at borders of characters. -/
theorem codeAt?_eq (f : Fence) : codeAt? f = some f.code := by
  have hlines (ls : List Text) : ls.mapM (unindentAt? (byteSize f.indent)) =
      some (ls.map (unindentLine (byteSize f.indent))) := by
    simp only [funext (unindentAt?_eq (byteSize f.indent))]
    exact List.mapM_pure
  rw [codeAt?, hlines, Fence.code, List.flatMap_def]
  rfl

/-! ### Front matter -/

/-- The line that ends front matter is found from every line on. -/
theorem locateEnd?_eq (pre : Text) (ls : List Text) (cur : Text) :
    locateEnd? (pre ++ (cur ++ ls.flatten)) (byteSize pre) (byteSize pre + byteSize cur) ls =
      some ((splitAtDelimiter ls).map fun (before, closed, _) =>
        (cur ++ before.flatten, byteSize (pre ++ (cur ++ (before.flatten ++ closed))))) := by
  induction ls generalizing cur with
  | nil => rfl
  | cons l ls ih =>
    rw [locateEnd?, splitAtDelimiter, isDelimiter]
    simp only [decide_eq_true_eq, List.flatten_cons]
    split_ifs with hl
    · rw [slice?_append]
      simp [Nat.add_assoc]
    · have hrest := ih (cur ++ l)
      simp only [List.append_assoc, byteSize_append, ← Nat.add_assoc] at hrest
      rw [hrest]
      simp [Option.map_map, Function.comp_def, Nat.add_assoc]

/-- The front matter of every document is cut out at borders of characters. -/
theorem locate?_eq (text : Text) : locate? text =
    some ((frontMatter? text).map fun f => (f.yaml, byteSize f.block)) := by
  by_cases hlf : '\n' ∈ text
  · obtain ⟨a, r, rfl, ha⟩ := List.eq_append_cons_of_mem hlf
    have hfirst : (a ++ '\n' :: r).takeWhile (· ≠ '\n') = a := by
      rw [List.takeWhile_append_of_pos (by simpa using fun c hc => ne_of_mem_of_not_mem hc ha)]
      simp
    have hdelimiter : isDelimiter (a ++ ['\n']) = decide (trimEnd a = ['-', '-', '-']) := by
      rw [isDelimiter, trimEnd,
        dropEndWhile_append_of_pos (List.forall_mem_singleton.2 (by decide)), ← trimEnd]
    have hrest : slice? (a ++ '\n' :: r) (byteSize a + 1) (byteSize (a ++ '\n' :: r)) = some r := by
      have h := slice?_byteSize_append (a ++ ['\n']) r
      rwa [List.append_assoc, byteSize_append] at h
    have hend := locateEnd?_eq (a ++ ['\n']) (lines r) []
    rw [List.append_assoc, List.nil_append, flatten_lines, byteSize_append] at hend
    change locateEnd? (a ++ '\n' :: r) (byteSize a + 1) (byteSize a + 1) (lines r) = _ at hend
    simp only [locate?, if_pos hlf, hfirst, slice?_zero_append, Option.bind_eq_bind,
      Option.bind_some, hrest, hend, frontMatter?, lines_append_lf ha, hdelimiter,
      decide_eq_true_eq]
    split_ifs with h
    · simp [Option.map_map, Function.comp_def, FrontMatter.block, Nat.add_assoc]
    · rfl
  · rw [locate?, if_neg hlf, frontMatter?]
    cases text with
    | nil => rfl
    | cons c r =>
      rw [(isLine_of_notMem hlf (List.cons_ne_nil c r)).lines_eq]
      simp [splitAtDelimiter]

end DocPreview.Document
