import DocPreview.Proofs.Document.Fence
import Mathlib.Data.List.Chain

/-!
# The segmentation of a document

A sequence of texts and fences is a segmentation if no line of a text opens a fence, each fence has
an opening line and no closing line but its last one, and neighbours meet where a line begins: a
text in front of a fence ends a line, and a closed fence is followed by the rest of its closing
line. Every document has exactly one segmentation, and it is what `segments` gives. So whatever
keeps segmentations is read as it was written, and no further argument about the scan is needed.

## Main definitions

* `Fence.IsClosed`, `Fence.IsUnclosed`: fences as they are read.
* `IsSegmentation`: sequences of texts and fences that are read as they are.
* `Segment.map`: a segment whose text or whose fence is changed.

## Main results

* `segments_flatMap_raw`: a segmentation is read as it is.
* `isSegmentation_segments`: the segments of a document are a segmentation.
* `segments_eq_iff`: the segments of a document are its only segmentation.
* `IsSegmentation.map`: changes that keep segmentations.
-/

namespace DocPreview.Document

open Text

/-- A fence whose last line closes it. -/
def Fence.IsClosed (f : Fence) : Prop :=
  ∃ o head inner closing, opening? head = some o ∧ (∀ l ∈ inner, o.closedBy l = false) ∧
    o.closedBy closing = true ∧ trimEnd closing = closing ∧
    lines f.raw = head :: (inner ++ [closing]) ∧ f = o.fence head inner.flatten closing

/-- A fence that no line closes. -/
def Fence.IsUnclosed (f : Fence) : Prop :=
  ∃ o head inner, opening? head = some o ∧ (∀ l ∈ inner, o.closedBy l = false) ∧
    lines f.raw = head :: inner ∧ f = o.fence head inner.flatten []

/-- What a segment may hold. -/
def Segment.Ok : Segment → Prop
  | .text s => s ≠ [] ∧ ∀ l ∈ lines s, ¬ OpensFence l
  | .fence f => f.IsClosed ∨ f.IsUnclosed

/-- Texts and fences alternate, a fence stands behind a line break, and behind a fence that is
closed the rest of its closing line is blank. -/
def Segment.Meets : Segment → Segment → Prop
  | .text s, .fence _ => EndsLine s
  | .fence f, .text s => f.IsClosed ∧ StartsBlank s
  | _, _ => False

/-- A sequence of segments that is read as it is. -/
structure IsSegmentation (segs : List Segment) : Prop where
  ok : ∀ x ∈ segs, x.Ok
  meets : segs.IsChain Segment.Meets

/-- A fence has an opening line. -/
theorem Segment.Ok.exists_opening {f : Fence} (h : (Segment.fence f).Ok) :
    ∃ o head, IsLine head ∧ opening? head = some o ∧ f.indent = o.indent := by
  rcases h with ⟨o, head, inner, closing, ho, -, -, -, hlines, hf⟩ |
    ⟨o, head, inner, ho, -, hlines, hf⟩
  all_goals
    have hmem : head ∈ lines f.raw := by simp [hlines]
    exact ⟨o, head, isLine_of_mem_lines hmem, ho, hf ▸ rfl⟩

/-! ### Reading a segmentation -/

theorem scan_none_append {ls : List Text} (h : ∀ l ∈ ls, opening? l = none) (ms : List Text) :
    scan none (ls ++ ms) =
      { scan none ms with current := ls.flatten ++ (scan none ms).current } := by
  induction ls with
  | nil => rfl
  | cons l ls ih =>
    rw [List.forall_mem_cons] at h
    simp only [List.cons_append, scan, h.1, ih h.2, List.flatten_cons, List.append_assoc]

theorem scan_some_append {o : Opening} {ls : List Text} (h : ∀ l ∈ ls, o.closedBy l = false)
    (ms : List Text) : scan (some o) (ls ++ ms) =
      { scan (some o) ms with current := ls.flatten ++ (scan (some o) ms).current } := by
  induction ls with
  | nil => rfl
  | cons l ls ih =>
    rw [List.forall_mem_cons] at h
    simp only [List.cons_append, scan, h.1, ih h.2, List.flatten_cons, List.append_assoc,
      Bool.false_eq_true, ↓reduceIte]

theorem markup_of_ne_nil {s : Text} (h : s ≠ []) : markup s = [.text s] := by
  cases s with
  | nil => exact absurd rfl h
  | cons c s => rfl

theorem fence_notMem_markup (f : Fence) (s : Text) : .fence f ∉ markup s := by
  cases s <;> simp [markup]

/-- A text without opening lines is one segment. -/
theorem segments_eq_markup {s : Text} (h : ∀ l ∈ lines s, ¬ OpensFence l) :
    segments s = markup s := by
  have hscan := scan_none_append (fun l hl => opening?_eq_none_iff.2 (h l hl)) []
  rw [List.append_nil, flatten_lines] at hscan
  rw [segments, hscan]
  simp [scan]

/-- A text in front of a fence is a segment. -/
theorem segments_text_append {s w : Text} {f : Fence} {segs : List Segment}
    (hs : (Segment.text s).Ok) (hend : EndsLine s) (hw : segments w = .fence f :: segs) :
    segments (s ++ w) = .text s :: segments w := by
  have hcurrent : (scan none (lines w)).current = [] := by
    by_contra hne
    rw [segments, markup_of_ne_nil hne] at hw
    cases hw
  rw [segments, lines_append hend,
    scan_none_append (fun l hl => opening?_eq_none_iff.2 (hs.2 l hl)), flatten_lines]
  simp only [hcurrent, List.append_nil, markup_of_ne_nil hs.1]
  rw [segments, hcurrent]
  rfl

/-- A fence that is not closed is a segment. -/
theorem segments_raw_of_isUnclosed {f : Fence} (hf : f.IsUnclosed) :
    segments f.raw = [.fence f] := by
  obtain ⟨o, head, inner, ho, hinner, hlines, hf⟩ := hf
  have hscan := scan_some_append hinner []
  rw [List.append_nil] at hscan
  simp only [segments, hlines, scan, ho, hscan, List.append_nil, ← hf]
  rfl

/-- A closed fence is a segment, whatever follows its closing line. -/
theorem segments_raw_append {f : Fence} (hf : f.IsClosed) {w : Text} (hw : StartsBlank w) :
    segments (f.raw ++ w) = .fence f :: segments w := by
  obtain ⟨o, head, inner, closing, ho, hinner, hclosed, htrim, hlines, hf⟩ := hf
  obtain ⟨hm, hn⟩ := marker_and_size_of_opening? ho
  have hmem : closing ∈ lines f.raw := by simp [hlines]
  have hclosing : IsLine closing := isLine_of_mem_lines hmem
  have hlf : '\n' ∉ closing := hclosing.lf_notMem htrim
  -- The closing line is the closing characters with the blank first line `v` of what follows.
  obtain ⟨v, ls, hv, hcut, hrest⟩ : ∃ v ls, (∀ c ∈ v, isBlank c) ∧
      lines (closing ++ w) = (closing ++ v) :: ls ∧
      segments w = markup (v ++ (scan none ls).current) ++ (scan none ls).later := by
    cases hlw : lines w with
    | nil =>
      obtain rfl : w = [] := by rw [← flatten_lines w, hlw]; rfl
      exact ⟨[], [], by simp, by simpa using hclosing.lines_eq, rfl⟩
    | cons v ls =>
      have hv : ∀ c ∈ v, isBlank c := hw v (by rw [hlw]; rfl)
      have hplain : ∀ l ∈ [v], opening? l = none := by
        simpa using opening?_eq_none_iff.2 (not_opensFence_of_blank hv)
      refine ⟨v, ls, hv, lines_append_of_notMem hlf hlw, ?_⟩
      rw [segments, hlw, ← List.singleton_append, scan_none_append hplain, List.flatten_singleton]
  have hkept : trimEnd (closing ++ v) = closing := by
    rw [trimEnd, dropEndWhile_append_of_pos hv]
    exact htrim
  have hclosed_v : o.closedBy (closing ++ v) = true := by
    rw [closedBy_append_of_blank hm hn hv, hclosed]
  have hlines_f : lines f.raw = (head :: inner) ++ [closing] := hlines
  have hlines_w : lines (f.raw ++ w) = head :: (inner ++ (closing ++ v) :: ls) :=
    hcut ▸ lines_append_of_lines_eq hlines_f w
  simp only [segments, hlines_w, scan, ho, scan_some_append hinner, hclosed_v, hkept, ↓reduceIte,
    List.drop_left, List.append_nil, ← hf]
  rw [← hrest]
  rfl

/-- A text that does not end a line is the last segment. -/
theorem endsLine_of_meets {s : Text} {segs : List Segment}
    (h : (.text s :: segs).IsChain Segment.Meets) : EndsLine s ∨ segs = [] := by
  cases segs with
  | nil => exact Or.inr rfl
  | cons x segs =>
    have hx := (List.isChain_cons_cons.1 h).1
    cases x with
    | text t => exact hx.elim
    | fence f => exact Or.inl hx

/-- Behind a fence a blank line begins, or the text ends. -/
theorem startsBlank_of_isSegmentation {f : Fence} {segs : List Segment}
    (h : IsSegmentation (.fence f :: segs)) : StartsBlank (segs.flatMap Segment.raw) := by
  cases segs with
  | nil => exact startsBlank_nil
  | cons x segs =>
    have hfx := (List.isChain_cons_cons.1 h.meets).1
    cases x with
    | text s =>
      have hend : EndsLine s ∨ segs.flatMap Segment.raw = [] :=
        (endsLine_of_meets h.meets.tail).imp_right (by rintro rfl; rfl)
      exact hfx.2.append (h.ok (.text s) (by simp)).1 hend
    | fence g => exact hfx.elim

/-- A segmentation is read as it is. -/
theorem segments_flatMap_raw {segs : List Segment} (h : IsSegmentation segs) :
    segments (segs.flatMap Segment.raw) = segs := by
  obtain ⟨hok, hmeets⟩ := h
  induction segs with
  | nil => rfl
  | cons x segs ih =>
    rw [List.forall_mem_cons] at hok
    have hrest := ih hok.2 hmeets.tail
    rw [List.flatMap_cons]
    cases segs with
    | nil =>
      rw [List.flatMap_nil, List.append_nil]
      cases x with
      | text s => rw [Segment.raw, segments_eq_markup hok.1.2, markup_of_ne_nil hok.1.1]
      | fence f =>
        rcases hok.1 with hf | hf
        · have h := segments_raw_append hf startsBlank_nil
          rw [List.append_nil] at h
          exact h
        · exact segments_raw_of_isUnclosed hf
    | cons y segs =>
      have hxy := (List.isChain_cons_cons.1 hmeets).1
      cases x with
      | text s =>
        cases y with
        | text t => exact hxy.elim
        | fence f => rw [Segment.raw, segments_text_append hok.1 hxy hrest, hrest]
      | fence f =>
        cases y with
        | text t =>
          have hblank : StartsBlank ((.text t :: segs).flatMap Segment.raw) :=
            startsBlank_of_isSegmentation ⟨List.forall_mem_cons.2 hok, hmeets⟩
          rw [Segment.raw, segments_raw_append hxy.1 hblank, hrest]
        | fence g => exact hxy.elim

/-! ### The segments of a document -/

/-- What stands behind a closed fence. -/
def IsAfterFence (segs : List Segment) : Prop :=
  IsSegmentation segs ∧ ∀ x, segs.head? = some x → ∃ s, x = .text s ∧ StartsBlank s

/-- What a scan may find outside fences. -/
structure Scan.IsOutside (x : Scan) : Prop where
  plain : ∀ l ∈ lines x.current, ¬ OpensFence l
  meets : ∀ y, x.later.head? = some y → EndsLine x.current ∧ ∃ f, y = .fence f
  later : IsSegmentation x.later

/-- What a scan may find behind the opening line `o`. -/
def Scan.IsInside (o : Opening) (x : Scan) : Prop :=
  ∃ inner, (∀ l ∈ inner, o.closedBy l = false) ∧ x.current = inner.flatten ∧
    (lines x.current = inner ∧ x.closing = [] ∧ x.later = [] ∨
      o.closedBy x.closing = true ∧ trimEnd x.closing = x.closing ∧
        lines (x.current ++ x.closing) = inner ++ [x.closing] ∧ IsAfterFence x.later)

theorem isSegmentation_nil : IsSegmentation [] where
  ok := by simp
  meets := List.isChain_nil

theorem IsSegmentation.cons {x : Segment} {segs : List Segment} (hx : x.Ok)
    (hmeets : ∀ y, segs.head? = some y → x.Meets y) (h : IsSegmentation segs) :
    IsSegmentation (x :: segs) where
  ok := List.forall_mem_cons.2 ⟨hx, h.ok⟩
  meets := List.isChain_cons.2 ⟨fun y hy => hmeets y hy, h.meets⟩

variable {l : Text} {x : Scan} {o : Opening}

/-- The pieces outside fences are a segmentation. -/
theorem Scan.IsOutside.isSegmentation (hx : x.IsOutside) :
    IsSegmentation (markup x.current ++ x.later) := by
  by_cases hne : x.current = []
  · rw [hne]
    exact hx.later
  · rw [markup_of_ne_nil hne]
    refine hx.later.cons ⟨hne, hx.plain⟩ fun y hy => ?_
    obtain ⟨hend, f, rfl⟩ := hx.meets y hy
    exact hend

/-- Outside fences a line that opens no fence joins the text. -/
theorem Scan.IsOutside.line (hx : x.IsOutside) (hl : IsLine l)
    (hend : EndsLine l ∨ x = ⟨[], [], []⟩) (hplain : ¬ OpensFence l) :
    Scan.IsOutside { x with current := l ++ x.current } where
  plain := by
    rw [hl.lines_append (hend.imp_right (by rintro rfl; rfl))]
    exact List.forall_mem_cons.2 ⟨hplain, hx.plain⟩
  meets y hy := by
    obtain ⟨hcurrent, hf⟩ := hx.meets y hy
    refine ⟨EndsLine.append (hend.resolve_right ?_) hcurrent, hf⟩
    rintro rfl
    cases hy
  later := hx.later

/-- In a fence a line that does not close it joins its lines. -/
theorem Scan.IsInside.line (hx : x.IsInside o) (hl : IsLine l)
    (hend : EndsLine l ∨ x = ⟨[], [], []⟩) (hopen : o.closedBy l = false) :
    Scan.IsInside o { x with current := l ++ x.current } := by
  obtain ⟨inner, hinner, hcurrent, h⟩ := hx
  refine ⟨l :: inner, List.forall_mem_cons.2 ⟨hopen, hinner⟩, by simp [hcurrent], h.imp ?_ ?_⟩
  · rintro ⟨hlines, h⟩
    refine ⟨?_, h⟩
    rw [hl.lines_append (hend.imp_right (by rintro rfl; rfl)), hlines]
  · rintro ⟨hclosed, htrim, hlines, h⟩
    refine ⟨hclosed, htrim, ?_, h⟩
    simp only [List.append_assoc]
    rw [hl.lines_append (hend.imp_right (by rintro rfl; rfl)), hlines]
    rfl

/-- An opening line and what is found behind it make a fence. -/
theorem Scan.IsInside.isOutside (hx : x.IsInside o) (hl : IsLine l)
    (hend : EndsLine l ∨ x = ⟨[], [], []⟩) (ho : opening? l = some o) :
    Scan.IsOutside ⟨[], [], .fence (o.fence l x.current x.closing) :: x.later⟩ := by
  obtain ⟨inner, hinner, hcurrent, h⟩ := hx
  have hraw (t : Text) (ht : x = ⟨[], [], []⟩ → t = []) : lines (l ++ t) = l :: lines t :=
    hl.lines_append (hend.imp_right ht)
  have hfence : IsSegmentation (.fence (o.fence l x.current x.closing) :: x.later) := by
    rcases h with ⟨hlines, hclosing, hlater⟩ | ⟨hclosed, htrim, hlines, hafter, hblank⟩
    · rw [hclosing, hlater]
      refine isSegmentation_nil.cons (Or.inr ⟨o, l, inner, ho, hinner, ?_, by rw [hcurrent]⟩) ?_
      · simp only [Opening.fence, List.append_nil]
        rw [hraw _ (by rintro rfl; rfl), hlines]
      · simp
    · have hf : Fence.IsClosed (o.fence l x.current x.closing) := by
        refine ⟨o, l, inner, x.closing, ho, hinner, hclosed, htrim, ?_, by rw [hcurrent]⟩
        simp only [Opening.fence, List.append_assoc]
        rw [hraw _ (by rintro rfl; rfl), hlines]
      refine hafter.cons (Or.inl hf) fun y hy => ?_
      obtain ⟨s, rfl, hs⟩ := hblank y hy
      exact ⟨hf, hs⟩
  exact ⟨by simp, fun y hy => ⟨Or.inl rfl, _, (Option.some.inj hy).symm⟩, hfence⟩

/-- A closing line ends its fence and leaves its end to the text. -/
theorem Scan.IsOutside.isInside (hx : x.IsOutside) (hl : IsLine l)
    (hend : EndsLine l ∨ x = ⟨[], [], []⟩) (hm : isMarker o.marker) (hn : 0 < o.size)
    (hclosed : o.closedBy l = true) :
    Scan.IsInside o ⟨[], trimEnd l,
      markup (l.drop (trimEnd l).length ++ x.current) ++ x.later⟩ := by
  obtain ⟨v, hv, hblank⟩ := exists_of_dropEndWhile isBlank l
  change l = trimEnd l ++ v at hv
  have htrim : trimEnd (trimEnd l) = trimEnd l := dropEndWhile_idem isBlank l
  generalize trimEnd l = kept at hv htrim ⊢
  subst hv
  rw [closedBy_append_of_blank hm hn hblank] at hclosed
  have hkept : IsLine kept := by
    refine hl.of_append_left ?_
    rintro rfl
    rw [closedBy_nil hn] at hclosed
    cases hclosed
  refine ⟨[], by simp, rfl, Or.inr ⟨hclosed, htrim, hkept.lines_eq, ?_⟩⟩
  rw [List.drop_left]
  by_cases hne : v = []
  · -- Nothing is left of the line, so it lacks its line break and is the last one.
    have hx_nil : x = ⟨[], [], []⟩ := by
      refine hend.resolve_left ?_
      rw [hne, List.append_nil]
      rintro (hend | hend)
      · exact hkept.ne_nil hend
      · exact hkept.lf_notMem htrim (List.mem_of_getLast? hend)
    rw [hne, hx_nil]
    exact ⟨isSegmentation_nil, by simp [markup]⟩
  · have hv : IsLine v := hl.of_append_right hne
    have hend : EndsLine v ∨ x = ⟨[], [], []⟩ := hend.imp_left EndsLine.of_append
    refine ⟨(hx.line hv hend (not_opensFence_of_blank hblank)).isSegmentation, fun y hy => ?_⟩
    rw [markup_of_ne_nil (by simp [hne])] at hy
    refine ⟨v ++ x.current, (Option.some.inj hy).symm, ?_⟩
    exact (startsBlank_of_blank hblank).append hne (hend.imp_right (by rintro rfl; rfl))

/-- What the scan of a text finds. -/
theorem scan_lines (s : Text) : (scan none (lines s)).IsOutside ∧
    ∀ o : Opening, isMarker o.marker → 0 < o.size → (scan (some o) (lines s)).IsInside o := by
  induction s using line_induction with
  | nil =>
    refine ⟨⟨by simp [scan], by simp [scan], isSegmentation_nil⟩, fun o _ _ => ?_⟩
    exact ⟨[], by simp, rfl, Or.inl ⟨rfl, rfl, rfl⟩⟩
  | line l s hl hend ih =>
    have hscan (state : Option Opening) :
        EndsLine l ∨ scan state (lines s) = ⟨[], [], []⟩ := by
      refine hend.imp_right ?_
      rintro rfl
      cases state <;> rfl
    rw [hl.lines_append hend]
    refine ⟨?_, fun o hm hn => ?_⟩
    · rw [scan]
      cases ho : opening? l with
      | none => exact ih.1.line hl (hscan none) (opening?_eq_none_iff.1 ho)
      | some o =>
        obtain ⟨hm, hn⟩ := marker_and_size_of_opening? ho
        exact (ih.2 o hm hn).isOutside hl (hscan (some o)) ho
    · rw [scan]
      split_ifs with hclosed
      · exact ih.1.isInside hl (hscan none) hm hn hclosed
      · exact (ih.2 o hm hn).line hl (hscan (some o)) (by simpa using hclosed)

/-- The segments of a document are a segmentation. -/
theorem isSegmentation_segments (text : Text) : IsSegmentation (segments text) :=
  (scan_lines text).1.isSegmentation

@[simp] theorem flatMap_raw_markup (s : Text) : (markup s).flatMap Segment.raw = s := by
  cases s <;> simp [markup, Segment.raw]

/-- What a scan finds makes up its lines. -/
theorem flatMap_raw_scan (state : Option Opening) (ls : List Text) :
    (scan state ls).current ++ ((scan state ls).closing ++
      (scan state ls).later.flatMap Segment.raw) = ls.flatten ∧
    (state = none → (scan state ls).closing = []) := by
  fun_induction scan state ls with
  | case1 => exact ⟨rfl, fun _ => rfl⟩
  | case2 l ls ho outside ih =>
    exact ⟨by simp only [List.append_assoc, List.flatten_cons, outside, ih.1], ih.2⟩
  | case3 l ls o ho inside ih =>
    refine ⟨?_, fun _ => rfl⟩
    simp only [List.flatMap_cons, Segment.raw, Opening.fence, List.append_assoc, List.nil_append,
      List.flatten_cons, inside, ih.1]
  | case4 o l ls hclosed outside kept ih =>
    obtain ⟨v, hv, -⟩ := exists_of_dropEndWhile isBlank l
    change l = kept ++ v at hv
    obtain ⟨h, hclosing⟩ := ih
    rw [hclosing rfl, List.nil_append] at h
    refine ⟨?_, by simp⟩
    simp only [List.flatMap_append, flatMap_raw_markup, List.nil_append, List.append_assoc,
      List.flatten_cons, outside, h]
    rw [hv, List.drop_left, List.append_assoc]
  | case5 o l ls hopen inside ih =>
    exact ⟨by simp only [List.append_assoc, List.flatten_cons, inside, ih.1], by simp⟩

/-- The segments of a document make it up. -/
theorem flatMap_raw_segments (text : Text) : (segments text).flatMap Segment.raw = text := by
  obtain ⟨h, hclosing⟩ := flatMap_raw_scan none (lines text)
  rw [hclosing rfl, List.nil_append, flatten_lines] at h
  simpa [segments] using h

/-- The segments of a document are its only segmentation. -/
theorem segments_eq_iff {text : Text} {segs : List Segment} :
    segments text = segs ↔ IsSegmentation segs ∧ segs.flatMap Segment.raw = text := by
  constructor
  · rintro rfl
    exact ⟨isSegmentation_segments text, flatMap_raw_segments text⟩
  · rintro ⟨h, rfl⟩
    exact segments_flatMap_raw h

/-! ### Changing segments -/

/-- A segment whose text or whose fence is changed. -/
def Segment.map (onText : Text → Text) (onFence : Fence → Fence) : Segment → Segment
  | .text s => .text (onText s)
  | .fence f => .fence (onFence f)

/-- A change of the texts and fences that keeps what segments hold and where they meet keeps
segmentations. -/
theorem IsSegmentation.map {onText : Text → Text} {onFence : Fence → Fence} {segs : List Segment}
    (h : IsSegmentation segs)
    (htext : ∀ s, .text s ∈ segs → (Segment.text s).Ok → (Segment.text (onText s)).Ok ∧
      (EndsLine s → EndsLine (onText s)) ∧ (StartsBlank s → StartsBlank (onText s)))
    (hfence : ∀ f, .fence f ∈ segs → (f.IsClosed → (onFence f).IsClosed) ∧
      (f.IsUnclosed → (onFence f).IsUnclosed)) :
    IsSegmentation (segs.map (Segment.map onText onFence)) := by
  induction segs with
  | nil => exact isSegmentation_nil
  | cons x segs ih =>
    obtain ⟨hok, hmeets⟩ := h
    have hx := hok x List.mem_cons_self
    have hrest := ih ⟨fun y hy => hok y (List.mem_cons_of_mem _ hy), hmeets.tail⟩
      (fun s hs => htext s (List.mem_cons_of_mem _ hs))
      (fun f hf => hfence f (List.mem_cons_of_mem _ hf))
    refine hrest.cons ?_ fun y hy => ?_
    · cases x with
      | text s => exact (htext s List.mem_cons_self hx).1
      | fence f =>
        have hf := hfence f List.mem_cons_self
        exact hx.imp hf.1 hf.2
    · rw [List.head?_map, Option.map_eq_some_iff] at hy
      obtain ⟨z, hz, rfl⟩ := hy
      have hxz := (List.isChain_cons.1 hmeets).1 z hz
      have hz_mem := List.mem_cons_of_mem x (List.mem_of_head? hz)
      cases x with
      | text s =>
        cases z with
        | text t => exact hxz.elim
        | fence f => exact (htext s List.mem_cons_self hx).2.1 hxz
      | fence f =>
        cases z with
        | text t =>
          exact ⟨(hfence f List.mem_cons_self).1 hxz.1,
            (htext t hz_mem (hok _ hz_mem)).2.2 hxz.2⟩
        | fence g => exact hxz.elim

end DocPreview.Document
