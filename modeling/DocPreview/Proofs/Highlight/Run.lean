import DocPreview.Proofs.Highlight.Span
import Mathlib.Data.List.Chain

/-!
# Highlighted code and the classes of its characters

The HTML of a code depends on nothing but the class of each of its characters: it is one piece for
each run of characters of equal class, whatever pieces the tokenizer finds on the way, how many of
them are empty and on which lines they lie. The runs are determined by the classes, so two
tokenizers that classify the characters alike give the same HTML.

The HTML can also be written from left to right, with a span that is left open until a character of
another class comes. A run holds no tag, so no span stands in another one.

## Main definitions

* `Tokenizer.classes`: the class of each character of a code, from the scopes in force there.
* `IsRuns`: the runs of characters of equal class.
* `Writer`: what writes the HTML of stretches from left to right.

## Main results

* `classes_eq_map_stretches`: the stretches give each character its class.
* `isRuns_mergeStretches`, `IsRuns.eq_runs`: merged stretches are the runs, and there are no others.
* `finish_foldl_push`: writing from left to right gives the HTML of the merged stretches.
* `highlightWith_eq_runs`: the HTML of a code is made of its runs.
-/

namespace DocPreview.Highlight

open Text

variable {ss ts : List Stretch} {s : Stretch} {stack next last : ScopeStack} {es : List Edit}
  {cs : List (Option TokenClass × Char)}

/-! ### The class of a character -/

/-- A stack after changes, one after the other. -/
def ScopeStack.applyAll (stack : ScopeStack) (es : List Edit) : Option ScopeStack :=
  es.foldlM (fun s e => s.apply e.op) stack

/-- The stack in force at a character of a line: it comes from the changes that stand at or before
the character, of which there are the first ones. -/
def inForce (stack : ScopeStack) (es : List Edit) (i : Nat) : Option ScopeStack :=
  stack.applyAll (es.takeWhile fun e => e.position ≤ i)

/-- The class of a character of a line. -/
def classAt (stack : ScopeStack) (es : List Edit) (i : Nat) : Option TokenClass :=
  (inForce stack es i).bind fun s => tokenClass s.scopes

/-- The class of each character of lines, unless the tokenizer or a change of the scopes fails. -/
def Tokenizer.lineClasses (t : Tokenizer) :
    t.State → ScopeStack → List Text → Option (List (Option TokenClass))
  | _, _, [] => some []
  | state, stack, l :: ls => do
    let (edits, next) ← t.line state l
    let last ← stack.applyAll edits
    return (List.range l.length).map (classAt stack edits) ++ (← t.lineClasses next last ls)

/-- The class of each character of a code. -/
def Tokenizer.classes (t : Tokenizer) (code : Text) : Option (List (Option TokenClass)) :=
  t.lineClasses t.start .empty (lines code)

theorem classAt_cons_of_lt {e : Edit} {i : Nat} (h : i < e.position) :
    classAt stack (e :: es) i = tokenClass stack.scopes := by
  rw [classAt, inForce, List.takeWhile_cons_of_neg (by simpa using h)]
  rfl

theorem classAt_cons_of_le {e : Edit} {i : Nat} (h : e.position ≤ i)
    (hnext : stack.apply e.op = some next) : classAt stack (e :: es) i = classAt next es i := by
  rw [classAt, inForce, List.takeWhile_cons_of_pos (by simpa using h), ScopeStack.applyAll,
    List.foldlM_cons, hnext]
  rfl

/-! ### The classes of stretches -/

/-- The class of each character of a stretch. -/
def Stretch.classes (s : Stretch) : List (Option TokenClass) :=
  List.replicate s.text.length s.cls

/-- The positions of a rest of a line that is cut. -/
theorem range'_length_eq (position width : Nat) (rest : Text) :
    List.range' position rest.length =
      List.range' position (rest.take width).length ++
        List.range' (position + width) (rest.drop width).length := by
  rw [List.length_take, List.length_drop]
  rcases Nat.le_total width rest.length with h | h
  · obtain ⟨k, hk⟩ := Nat.exists_eq_add_of_le h
    rw [hk, Nat.min_eq_left (Nat.le_add_right width k), Nat.add_sub_cancel_left,
      List.range'_append_1]
  · rw [Nat.min_eq_right h, Nat.sub_eq_zero_of_le h, List.range'_zero, List.append_nil]

/-- The stretches of the rest of a line give each character its class, and they fail with the
changes of the scopes. -/
theorem lineStretches_eq_map (stack : ScopeStack) (position : Nat) (rest : Text) (es : List Edit) :
    (lineStretches stack position rest es).map (Prod.map (List.flatMap Stretch.classes) id) =
      (stack.applyAll es).map fun last =>
        ((List.range' position rest.length).map (classAt stack es), last) := by
  induction es generalizing stack position rest with
  | nil =>
    have hclass : classAt stack [] = Function.const Nat (tokenClass stack.scopes) := rfl
    simp [lineStretches, ScopeStack.applyAll, Stretch.classes, hclass]
  | cons e es ih =>
    rw [lineStretches, ScopeStack.applyAll, List.foldlM_cons]
    dsimp only
    cases hnext : stack.apply e.op with
    | none => rfl
    | some next =>
      have hrest := ih next (position + (e.position - position)) (rest.drop (e.position - position))
      -- In front of the change the stack is in force, and behind it the changed one.
      have hfront : (List.range' position (rest.take (e.position - position)).length).map
          (classAt stack (e :: es)) =
            List.replicate (rest.take (e.position - position)).length (tokenClass stack.scopes) := by
        refine List.eq_replicate_iff.2 ⟨by rw [List.length_map, List.length_range'], fun k hk => ?_⟩
        obtain ⟨i, hi, rfl⟩ := List.mem_map.1 hk
        rw [List.mem_range'_1, List.length_take] at hi
        exact classAt_cons_of_lt (by omega)
      have hback : (List.range' (position + (e.position - position))
          (rest.drop (e.position - position)).length).map (classAt stack (e :: es)) =
            (List.range' (position + (e.position - position))
              (rest.drop (e.position - position)).length).map (classAt next es) := by
        refine List.map_congr_left fun i hi => classAt_cons_of_le ?_ hnext
        rw [List.mem_range'_1] at hi
        omega
      rw [range'_length_eq position (e.position - position) rest, List.map_append, hfront, hback]
      rw [Option.map_map, Option.bind_eq_bind, Option.bind_some, ← ScopeStack.applyAll]
      cases hs : lineStretches next (position + (e.position - position))
          (rest.drop (e.position - position)) es with
      | none =>
        rw [hs] at hrest
        rw [Option.map_eq_none_iff.1 hrest.symm]
        rfl
      | some q =>
        rw [hs, Option.map_some] at hrest
        obtain ⟨last, hlast, heq⟩ := Option.map_eq_some_iff.1 hrest.symm
        obtain ⟨hclasses, rfl⟩ := Prod.mk.inj heq
        rw [hlast, Option.map_some, hclasses]
        rfl

/-- The stretches of lines give each character its class, and they fail with the tokenizer. -/
theorem lineClasses_eq_map_stretches (t : Tokenizer) (state : t.State) (stack : ScopeStack)
    (ls : List Text) : t.lineClasses state stack ls =
      (t.stretches state stack ls).map (List.flatMap Stretch.classes) := by
  induction ls generalizing state stack with
  | nil => rfl
  | cons l ls ih =>
    rw [Tokenizer.lineClasses, Tokenizer.stretches]
    cases t.line state l with
    | none => rfl
    | some p =>
      obtain ⟨edits, next⟩ := p
      have hline := lineStretches_eq_map stack 0 l edits
      cases hs : lineStretches stack 0 l edits with
      | none =>
        rw [hs] at hline
        have hfails : stack.applyAll edits = none := Option.map_eq_none_iff.1 hline.symm
        simp [hfails, hs]
      | some q =>
        obtain ⟨ss, last⟩ := q
        rw [hs] at hline
        obtain ⟨last', hlast, heq⟩ := Option.map_eq_some_iff.1 hline.symm
        obtain ⟨hclasses, rfl⟩ := Prod.mk.inj heq
        rw [← List.range_eq_range'] at hclasses
        simp only [Option.bind_eq_bind, Option.bind_some, hlast, hs, ih, hclasses]
        cases t.stretches next last' ls with
        | none => rfl
        | some ts => simp

/-- The stretches of a code give each character its class. -/
theorem classes_eq_map_stretches (t : Tokenizer) (code : Text) : t.classes code =
    (t.stretches t.start .empty (lines code)).map (List.flatMap Stretch.classes) :=
  lineClasses_eq_map_stretches t t.start .empty (lines code)

/-! ### Runs -/

/-- The characters of a stretch, each with the class of the stretch. -/
def Stretch.labelled (s : Stretch) : List (Option TokenClass × Char) :=
  s.text.map fun c => (s.cls, c)

/-- The runs of characters of equal class: no run is empty, and none can be made longer. -/
structure IsRuns (cs : List (Option TokenClass × Char)) (ss : List Stretch) : Prop where
  labelled : ss.flatMap Stretch.labelled = cs
  nonempty : ∀ s ∈ ss, s.text ≠ []
  maximal : ss.IsChain fun s t => s.cls ≠ t.cls

theorem isRuns_nil : IsRuns [] [] := ⟨rfl, by simp, List.IsChain.nil⟩

/-- A stretch in front of runs joins the first one or is a run of its own. -/
theorem IsRuns.consStretch (h : IsRuns cs ss) (hs : s.text ≠ []) :
    IsRuns (s.labelled ++ cs) (consStretch s ss) := by
  obtain ⟨hlabelled, hnonempty, hmaximal⟩ := h
  unfold Highlight.consStretch
  split
  · rw [← hlabelled]
    exact ⟨rfl, by simpa using hs, List.IsChain.singleton s⟩
  · next t ts =>
    obtain ⟨-, hts⟩ := List.forall_mem_cons.1 hnonempty
    split_ifs with hcls
    · refine ⟨?_, List.forall_mem_cons.2 ⟨by simp [hs], hts⟩, ?_⟩
      · simp [← hlabelled, Stretch.labelled, hcls]
      · cases ts with
        | nil => exact List.IsChain.singleton _
        | cons u ts =>
          rw [List.isChain_cons_cons] at hmaximal ⊢
          exact ⟨by simpa [hcls] using hmaximal.1, hmaximal.2⟩
    · refine ⟨by simp [← hlabelled], List.forall_mem_cons.2 ⟨hs, hnonempty⟩, ?_⟩
      exact List.isChain_cons_cons.2 ⟨hcls, hmaximal⟩

/-- Merged stretches are the runs of their characters. -/
theorem isRuns_mergeStretches (ss : List Stretch) :
    IsRuns (ss.flatMap Stretch.labelled) (mergeStretches ss) := by
  induction ss with
  | nil => exact isRuns_nil
  | cons s ss ih =>
    rw [mergeStretches, List.flatMap_cons]
    split_ifs with h
    · rwa [Stretch.labelled, List.isEmpty_iff.1 h, List.map_nil, List.nil_append]
    · exact ih.consStretch (by simpa using h)

/-- The characters of a run join it one after the other, from the last one on. -/
theorem foldr_labelled (hs : s.text ≠ []) (hss : ∀ t ∈ ss.head?, s.cls ≠ t.cls) :
    s.labelled.foldr (fun p => consStretch ⟨p.1, [p.2]⟩) ss = s :: ss := by
  obtain ⟨cls, text⟩ := s
  induction text with
  | nil => exact absurd rfl hs
  | cons c r ih =>
    cases r with
    | nil =>
      cases ss with
      | nil => rfl
      | cons t ts => exact if_neg (hss t rfl)
    | cons d r =>
      have hrest := ih (List.cons_ne_nil d r) hss
      rw [Stretch.labelled, List.map_cons, List.foldr_cons, ← Stretch.labelled.eq_1 ⟨cls, d :: r⟩,
        hrest]
      exact if_pos rfl

/-- The runs of characters, each of which joins the first run behind it if it can. -/
def runs (cs : List (Option TokenClass × Char)) : List Stretch :=
  cs.foldr (fun p => consStretch ⟨p.1, [p.2]⟩) []

theorem isRuns_runs (cs : List (Option TokenClass × Char)) : IsRuns cs (runs cs) := by
  induction cs with
  | nil => exact isRuns_nil
  | cons p cs ih => exact ih.consStretch (s := ⟨p.1, [p.2]⟩) (List.cons_ne_nil p.2 [])

/-- There are no other runs. -/
theorem IsRuns.eq_runs (h : IsRuns cs ss) : ss = runs cs := by
  obtain ⟨rfl, hnonempty, hmaximal⟩ := h
  induction ss with
  | nil => rfl
  | cons s ss ih =>
    obtain ⟨hs, hss⟩ := List.forall_mem_cons.1 hnonempty
    obtain ⟨hfirst, hrest⟩ := List.isChain_cons.1 hmaximal
    rw [runs, List.flatMap_cons, List.foldr_append, ← runs, ← ih hss hrest,
      foldr_labelled hs hfirst]

/-- The characters of stretches with their classes. -/
theorem flatMap_labelled (ss : List Stretch) :
    ss.flatMap Stretch.labelled = (ss.flatMap Stretch.classes).zip (codeOf ss) := by
  induction ss with
  | nil => rfl
  | cons s ss ih =>
    have hs : s.labelled = s.classes.zip s.text := by
      obtain ⟨cls, text⟩ := s
      induction text with
      | nil => rfl
      | cons c r ihr => exact congrArg ((cls, c) :: ·) ihr
    rw [List.flatMap_cons, List.flatMap_cons, codeOf, List.flatMap_cons, ← codeOf, ih, hs,
      List.zip_append (by simp [Stretch.classes])]

/-! ### Writing from left to right -/

/-- What has been written of the HTML of stretches, and the class of the span that is open. -/
structure Writer where
  html : Text
  isOpen : Option TokenClass

/-- The start of a span, if a class has one. -/
def openSpan : Option TokenClass → Text
  | none => []
  | some cls => "<span class=\"".toList ++ cls.toList ++ "\">".toList

/-- The end of a span, if a class has one. -/
def closeSpan : Option TokenClass → Text
  | none => []
  | some _ => "</span>".toList

/-- Writes a stretch, in the span that is open if that has the class of the stretch. -/
def Writer.push (w : Writer) (s : Stretch) : Writer :=
  if s.text.isEmpty then w
  else if s.cls = w.isOpen then { w with html := w.html ++ escapeHtml s.text }
  else ⟨w.html ++ closeSpan w.isOpen ++ openSpan s.cls ++ escapeHtml s.text, s.cls⟩

/-- Ends the span that is open. -/
def Writer.finish (w : Writer) : Text := w.html ++ closeSpan w.isOpen

@[simp] theorem openSpan_none : openSpan none = [] := rfl

@[simp] theorem closeSpan_none : closeSpan none = [] := rfl

theorem Stretch.html_eq (s : Stretch) :
    s.html = openSpan s.cls ++ (escapeHtml s.text ++ closeSpan s.cls) := by
  obtain ⟨cls, text⟩ := s
  cases cls with
  | none => rw [openSpan_none, closeSpan_none, List.nil_append, List.append_nil]; rfl
  | some cls => exact List.append_assoc (openSpan (some cls)) (escapeHtml text) _

theorem escapeHtml_append (s t : Text) : escapeHtml (s ++ t) = escapeHtml s ++ escapeHtml t :=
  List.flatMap_append

/-- The HTML of runs behind a span that is open, which the first of them goes on if it can. -/
def htmlBehind (cls : Option TokenClass) : List Stretch → Text
  | [] => closeSpan cls
  | s :: ss =>
    if s.cls = cls then escapeHtml s.text ++ (closeSpan cls ++ ss.flatMap Stretch.html)
    else closeSpan cls ++ (s :: ss).flatMap Stretch.html

/-- The HTML of a stretch in front of others, with its span open behind it. -/
theorem flatMap_html_consStretch (s : Stretch) (ss : List Stretch) :
    (consStretch s ss).flatMap Stretch.html =
      openSpan s.cls ++ (escapeHtml s.text ++ htmlBehind s.cls ss) := by
  unfold consStretch htmlBehind
  cases ss with
  | nil => rw [List.flatMap_cons, List.flatMap_nil, List.append_nil, s.html_eq]
  | cons t ts =>
    by_cases hcls : s.cls = t.cls
    · simp only [if_pos hcls, if_pos hcls.symm]
      rw [List.flatMap_cons, Stretch.html_eq]
      simp only [escapeHtml_append, List.append_assoc]
    · simp only [if_neg hcls, if_neg (Ne.symm hcls)]
      rw [List.flatMap_cons, s.html_eq]
      simp only [List.append_assoc]

/-- A stretch goes on with the span that is open. -/
theorem htmlBehind_consStretch (s : Stretch) (ss : List Stretch) :
    htmlBehind s.cls (consStretch s ss) = escapeHtml s.text ++ htmlBehind s.cls ss := by
  unfold consStretch
  cases ss with
  | nil => simp [htmlBehind]
  | cons t ts =>
    by_cases hcls : s.cls = t.cls
    · simp [htmlBehind, hcls, escapeHtml_append]
    · simp [htmlBehind, hcls, Ne.symm hcls]

/-- A stretch of another class begins behind the span that is open. -/
theorem htmlBehind_consStretch_of_ne {cls : Option TokenClass} (h : s.cls ≠ cls)
    (ss : List Stretch) : htmlBehind cls (consStretch s ss) =
      closeSpan cls ++ (consStretch s ss).flatMap Stretch.html := by
  obtain ⟨t, ts, hcons, ht⟩ : ∃ t ts, consStretch s ss = t :: ts ∧ t.cls = s.cls := by
    unfold consStretch
    split
    · exact ⟨_, _, rfl, rfl⟩
    · split_ifs
      · exact ⟨_, _, rfl, rfl⟩
      · exact ⟨_, _, rfl, rfl⟩
  rw [hcons, htmlBehind, if_neg (ht ▸ h)]

/-- Writing stretches from left to right, behind what has been written. -/
theorem finish_foldl_push_eq (ss : List Stretch) (w : Writer) :
    (ss.foldl Writer.push w).finish = w.html ++ htmlBehind w.isOpen (mergeStretches ss) := by
  induction ss generalizing w with
  | nil => rfl
  | cons s ss ih =>
    rw [List.foldl_cons, ih, Writer.push, mergeStretches]
    by_cases hempty : s.text.isEmpty
    · rw [if_pos hempty, if_pos hempty]
    · rw [if_neg hempty, if_neg hempty]
      split_ifs with hcls
      · rw [← hcls, htmlBehind_consStretch, List.append_assoc]
      · rw [htmlBehind_consStretch_of_ne hcls, flatMap_html_consStretch]
        simp only [List.append_assoc]

/-- Writing from left to right gives the HTML of the merged stretches. -/
theorem finish_foldl_push (ss : List Stretch) :
    (ss.foldl Writer.push ⟨[], none⟩).finish = stretchesHtml ss := by
  rw [finish_foldl_push_eq, stretchesHtml, List.nil_append]
  cases mergeStretches ss with
  | nil => rfl
  | cons t ts =>
    rw [htmlBehind]
    split_ifs with hcls
    · rw [List.flatMap_cons, t.html_eq, hcls]
      simp only [openSpan_none, closeSpan_none, List.nil_append, List.append_assoc]
    · rw [closeSpan_none, List.nil_append]

/-! ### The HTML of a code -/

/-- The HTML of a code, written from left to right. -/
def writeWith (t : Tokenizer) (code : Text) : Text :=
  match t.stretches t.start .empty (lines code) with
  | some ss => (ss.foldl Writer.push ⟨[], none⟩).finish
  | none => escapeHtml code

/-- The HTML of a code, from the classes of its characters. -/
theorem highlightWith_eq_elim (t : Tokenizer) (code : Text) : highlightWith t code =
    (t.classes code).elim (escapeHtml code) fun cs =>
      (runs (cs.zip code)).flatMap Stretch.html := by
  rw [highlightWith, classes_eq_map_stretches]
  cases h : t.stretches t.start .empty (lines code) with
  | none => rfl
  | some ss =>
    have hcode := (codeOf_stretches h).1
    rw [flatten_lines] at hcode
    have hruns := (isRuns_mergeStretches ss).eq_runs
    rw [flatMap_labelled, hcode] at hruns
    rw [Option.map_some, Option.elim_some, ← hruns]
    rfl

theorem length_eq_of_classes {t : Tokenizer} {code : Text} {ks : List (Option TokenClass)}
    (h : t.classes code = some ks) : ks.length = code.length := by
  rw [classes_eq_map_stretches] at h
  obtain ⟨ss, hss, rfl⟩ := Option.map_eq_some_iff.1 h
  have hcode := (codeOf_stretches hss).1
  rw [flatten_lines] at hcode
  rw [← hcode, codeOf, List.length_flatMap, List.length_flatMap]
  simp [Stretch.classes]

/-- Highlighted code is the HTML of the runs of its characters of equal class, whatever stretches
the tokenizer finds, and it depends on nothing else of the tokenizer. -/
theorem highlightWith_eq_runs (t : Tokenizer) (code : Text) :
    writeWith t code = highlightWith t code ∧
      (∀ ks, t.classes code = some ks → ks.length = code.length ∧
        ∃ ss, IsRuns (ks.zip code) ss ∧ (∀ ts, IsRuns (ks.zip code) ts → ts = ss) ∧
          (∀ s ∈ ss, '<' ∉ escapeHtml s.text) ∧ highlightWith t code =
            ss.flatMap fun s => openSpan s.cls ++ (escapeHtml s.text ++ closeSpan s.cls)) ∧
      ∀ t' : Tokenizer, t'.classes code = t.classes code →
        highlightWith t' code = highlightWith t code := by
  refine ⟨?_, fun ks h => ⟨length_eq_of_classes h, runs (ks.zip code), isRuns_runs _,
    fun ts hts => hts.eq_runs, fun s _ => langle_notMem_escapeHtml s.text, ?_⟩, fun t' h => ?_⟩
  · rw [writeWith, highlightWith]
    cases t.stretches t.start .empty (lines code) with
    | none => rfl
    | some ss => exact finish_foldl_push ss
  · rw [highlightWith_eq_elim, h, Option.elim_some]
    exact List.flatMap_congr fun s _ => s.html_eq
  · rw [highlightWith_eq_elim, highlightWith_eq_elim, h]

/-- A word that a tokenizer finds in two pieces is one run. -/
theorem highlightWith_word_in_pieces :
    let keyword := ScopeOp.push (Scope.ofName "keyword.control".toList)
    let t : Tokenizer := ⟨Unit, (), fun _ _ => some
      ([⟨0, keyword⟩, ⟨1, .pop 1⟩, ⟨1, keyword⟩, ⟨3, .pop 1⟩], ())⟩
    highlightWith t "let<".toList =
      "<span class=\"hljs-keyword\">let</span>&lt;".toList := by
  intro keyword t
  let ks : List (Option TokenClass) :=
    [some "hljs-keyword", some "hljs-keyword", some "hljs-keyword", none]
  have hclasses : t.classes "let<".toList = some ks := by decide +kernel
  obtain ⟨-, ss, -, hunique, -, hhtml⟩ := (highlightWith_eq_runs t "let<".toList).2.1 ks hclasses
  have hruns : IsRuns (ks.zip "let<".toList)
      [⟨some "hljs-keyword", "let".toList⟩, ⟨none, "<".toList⟩] :=
    ⟨by decide, by decide, by decide⟩
  rw [hhtml, ← hunique _ hruns]
  decide +kernel

end DocPreview.Highlight
