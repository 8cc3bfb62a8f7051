import DocPreview.Proofs.Diagram.Element
import DocPreview.Proofs.Diagram.Insertion
import Mathlib.Data.List.Chain

/-!
# Documents of texts and fences

An outline is a document in which texts and fences alternate, each fence being on lines of its own.
In such a document the fences of a dialect are found as they are written: no backticks but those of
the fences follow each other three times, so no fence begins or ends elsewhere. A pass for a dialect
puts a fragment in the place of each fence with its label and leaves the rest, and since fragments
are out of the reach of fences, the pass for the other dialect finds its own fences in what is left.
The passes can therefore be run in any order.

## Main definitions

* `Part`, `Outline`: texts and fences, and the documents made of them.
* `shownFrom`: some parts with the fences of some dialects replaced.

## Main results

* `scan_shownFrom`: the fences of a dialect among the parts after passes for other dialects.
* `substituteIn_outline`: passes for some dialects replace the fences of these dialects.
* `substituteAll_outline`: both passes replace all diagrams, and their order does not matter.
-/

namespace DocPreview.Diagram

open Text

/-- A text between fences, or a fence with the text after its opening backticks and its code. -/
inductive Part where
  | text (s : Text)
  | fence (info code : Text)
  deriving Repr, DecidableEq

namespace Part

/-- A part as it is written. -/
def raw : Part → Text
  | text s => s
  | fence info code => backticks ++ (info ++ '\n' :: (code ++ closing))

/-- What a part may hold. -/
def Ok : Part → Prop
  | text s => s ≠ [] ∧ ¬ backticks <:+: s
  | fence info code => trim info = info ∧ '\x60' ∉ info ∧ '\n' ∉ info ∧ ¬ backticks <:+: code ∧
    code.getLast? ≠ some '\r' ∧ code.getLast? ≠ some '\n'

/-- Texts and fences alternate, and fences are on lines of their own. -/
def Meets : Part → Part → Prop
  | text s, fence _ _ => s.getLast? = some '\n'
  | fence _ _, text s => s.head? = some '\n'
  | _, _ => False

instance : DecidablePred Ok
  | text s => inferInstanceAs (Decidable (s ≠ [] ∧ ¬ backticks <:+: s))
  | fence info code => inferInstanceAs (Decidable (trim info = info ∧ '\x60' ∉ info ∧ '\n' ∉ info ∧
      ¬ backticks <:+: code ∧ code.getLast? ≠ some '\r' ∧ code.getLast? ≠ some '\n'))

instance : DecidableRel Meets
  | text s, fence _ _ => inferInstanceAs (Decidable (s.getLast? = some '\n'))
  | fence _ _, text s => inferInstanceAs (Decidable (s.head? = some '\n'))
  | text _, text _ => isFalse id
  | fence _ _, fence _ _ => isFalse id

/-- The dialect whose label stands after the backticks of a fence. -/
def dialect? : Part → Option Dialect
  | text _ => none
  | fence info _ => Dialect.all.find? fun d => d.label.toList = info

/-- A part after passes for the dialects in `done`, when `count` tells the number of the fences of
each dialect before it. -/
def shown (render : Renderer) (done : List Dialect) (count : Dialect → Nat) : Part → Text
  | text s => s
  | fence info code =>
    match dialect? (fence info code) with
    | some d =>
      if d ∈ done then fragment d (diagramId d (count d)) (render d code)
      else raw (fence info code)
    | none => raw (fence info code)

/-- The number of the fences of each dialect up to a part. -/
def counted (p : Part) (count : Dialect → Nat) : Dialect → Nat := fun d =>
  if p.dialect? = some d then count d + 1 else count d

end Part

/-- Parts after passes for the dialects in `done`, when `count` tells the number of the fences of
each dialect before them. -/
def shownFrom (render : Renderer) (done : List Dialect) : (Dialect → Nat) → List Part → Text
  | _, [] => []
  | count, p :: ps => p.shown render done count ++ shownFrom render done (p.counted count) ps

/-- A document in which texts and fences alternate. -/
structure Outline where
  parts : List Part
  ok : ∀ p ∈ parts, p.Ok
  meets : parts.IsChain Part.Meets

/-- The document as it is written. -/
def Outline.text (doc : Outline) : Text := doc.parts.flatMap Part.raw

/-- The document with each fence of the dialects in `done` replaced by its own fragment. -/
def Outline.shown (doc : Outline) (render : Renderer) (done : List Dialect) : Text :=
  shownFrom render done (fun _ => 0) doc.parts

example : Outline where
  parts := [.text "a ``b`` c\n".toList, .fence "mermaid".toList "graph TD".toList,
    .text "\n\n".toList, .fence [] "x\n``".toList, .text "\n".toList]
  ok := by decide
  meets := by decide

/-! ### Backticks -/

variable {d : Dialect}

theorem found?_eq_none_of_not_prefix {s : Text} (h : ¬ backticks <+: s) : found? d s = none := by
  refine found?_eq_none_iff.2 ?_
  rintro o inner ⟨b, -, rfl⟩ rfl -
  exact h ⟨d.label.toList ++ b ++ inner, by simp only [List.append_assoc]⟩

/-- Three backticks do not begin in a text that has none, if the text ends in a line break or none
follows. -/
theorem not_backticks_prefix_append {s y w : Text} (hs : ¬ backticks <:+: s) (hy : y <:+ s)
    (hedge : y ≠ [] ∧ s.getLast? = some '\n' ∨ w.head? ≠ some '\x60') :
    ¬ backticks <+: y ++ w := by
  intro h
  rcases List.prefix_or_prefix_of_prefix h (List.prefix_append y w) with hp | ⟨t, ht⟩
  · exact hs (hp.isInfix.trans hy.isInfix)
  · have hmem {c : Char} (hc : c ∈ y ++ t) : c = '\x60' := by
      rw [ht] at hc
      simpa [backticks] using hc
    rcases hedge with ⟨hne, hlast⟩ | hw
    · obtain ⟨v, rfl⟩ := hy
      rw [List.getLast?_append_of_ne_nil _ hne, List.getLast?_eq_some_iff] at hlast
      obtain ⟨u, rfl⟩ := hlast
      have := hmem (c := '\n') (by simp)
      simp at this
    · cases t with
      | nil =>
        rw [List.append_nil] at ht
        exact hs (ht ▸ hy.isInfix)
      | cons c t =>
        rw [← ht, List.prefix_append_right_inj] at h
        obtain ⟨r, rfl⟩ := h
        have := hmem (c := c) (by simp)
        exact hw (by rw [List.cons_append, List.head?_cons, this])

/-- Behind the first backtick of a fence there are no three backticks before the last ones. -/
theorem not_backticks_infix_fence {info code : Text} (hinfo : '\x60' ∉ info)
    (hcode : ¬ backticks <:+: code) :
    ¬ backticks <:+: '\x60' :: '\x60' :: info ++ '\n' :: code := by
  intro h
  rcases infix_append_cons_of_notMem (by decide) h with h | h
  · have hcount := h.sublist.count_le '\x60'
    rw [List.count_cons_self, List.count_cons_self, List.count_eq_zero.2 hinfo] at hcount
    exact absurd hcount (by decide)
  · exact hcode h

/-! ### Fences as they are written -/

/-- A fence line with another label begins no fence. -/
theorem found?_eq_none_of_info {info rest : Text} (htrim : trim info = info) (hlf : '\n' ∉ info)
    (hne : info ≠ d.label.toList) : found? d (backticks ++ (info ++ '\n' :: rest)) = none := by
  refine found?_eq_none_iff.2 ?_
  rintro o inner ⟨b, hb, rfl⟩ heq -
  have hlabel : '\n' ∉ d.label.toList := by cases d <;> decide
  rw [List.append_assoc, List.append_assoc, List.append_cancel_left_eq] at heq
  rcases hb with rfl | rfl
  · exact hne (eq_of_append_cons_eq hlf hlabel heq)
  · have hcr : info ++ '\n' :: rest = d.label.toList ++ ['\r'] ++ '\n' :: inner := by
      rw [heq, List.append_assoc]
      rfl
    obtain rfl := eq_of_append_cons_eq hlf (by simpa using hlabel) hcr
    cases d <;> exact absurd htrim (by decide)

theorem found?_backticks_append {w : Text} (hw : w = [] ∨ w.head? = some '\n') :
    found? d (backticks ++ w) = none := by
  cases w with
  | nil => cases d <;> rfl
  | cons c w =>
    obtain rfl : c = '\n' := by simpa using hw
    have hne : [] ≠ d.label.toList := by cases d <;> decide
    exact found?_eq_none_of_info rfl (List.not_mem_nil) hne

/-- A text between fences is scanned as its characters. -/
theorem scan_text {s w : Text} {ps : List Piece} (hok : (Part.text s).Ok)
    (hw : w = [] ∨ s.getLast? = some '\n') (h : Scan d w ps) :
    Scan d (s ++ w) (s.map .char ++ ps) := by
  refine h.map_char_append fun y hy hne => found?_eq_none_of_not_prefix ?_
  refine not_backticks_prefix_append hok.2 hy (hw.symm.imp (⟨hne, ·⟩) ?_)
  rintro rfl
  simp

/-- A fence with another label is scanned as its characters. -/
theorem scan_other {info code w : Text} {ps : List Piece} (hok : (Part.fence info code).Ok)
    (hne : info ≠ d.label.toList) (hw : w = [] ∨ w.head? = some '\n') (h : Scan d w ps) :
    Scan d ((Part.fence info code).raw ++ w) ((Part.fence info code).raw.map .char ++ ps) := by
  obtain ⟨htrim, htick, hlf, hcode, -, -⟩ := hok
  have hraw : (Part.fence info code).raw =
      '\x60' :: (('\x60' :: '\x60' :: info ++ '\n' :: code) ++ '\n' :: backticks) := by
    simp [Part.raw, backticks, closing]
  have hhead : w.head? ≠ some '\x60' := by
    rcases hw with rfl | hw
    · simp
    · simp [hw]
  refine h.map_char_append fun y hy hy_ne => ?_
  rw [hraw] at hy
  rcases List.suffix_cons_iff.1 hy with rfl | hy
  · rw [← hraw, Part.raw, List.append_assoc, List.append_assoc]
    exact found?_eq_none_of_info htrim hlf hne
  rcases suffix_append_cases hy with hy | ⟨v, -, hv, rfl⟩
  · rcases List.suffix_cons_iff.1 hy with rfl | hy
    · exact found?_eq_none_of_not_prefix (by simp [backticks])
    · rcases List.suffix_cons_iff.1 hy with rfl | hy
      · exact found?_backticks_append hw
      · exact found?_eq_none_of_not_prefix
          (not_backticks_prefix_append (by decide) hy (Or.inr hhead))
  · rw [List.append_assoc]
    exact found?_eq_none_of_not_prefix
      (not_backticks_prefix_append (not_backticks_infix_fence htick hcode) hv (Or.inr (by simp)))

/-- A fence with the label of a dialect is found with its code. -/
theorem found?_fence {code : Text} (hok : (Part.fence d.label.toList code).Ok) (w : Text) :
    found? d ((Part.fence d.label.toList code).raw ++ w) =
      some (⟨backticks ++ d.label.toList ++ ['\n'], code, closing⟩, w) := by
  obtain ⟨-, -, -, hcode, hcr, -⟩ := hok
  refine found?_eq_some_iff.2 ⟨⟨_, isLineBreak_lf, rfl⟩, by simp [Part.raw], ?_⟩
  refine source?_eq_some_iff.2 ⟨rfl, isClosing_closing, fun y hy hne => ?_⟩
  have hticks {v : Text} (hv : v <:+ code) : ¬ backticks <+: v ++ (closing ++ w) :=
    not_backticks_prefix_append hcode hv (Or.inr (by simp [closing]))
  refine closing?_eq_none_iff.2 ?_
  rintro e ⟨b, hb, rfl⟩ hpre
  obtain ⟨c, y, rfl⟩ := List.exists_cons_of_ne_nil hne
  have hy' := (List.suffix_cons c y).trans hy
  rcases hb with rfl | rfl
  · exact hticks hy' (List.cons_prefix_cons.1 hpre).2
  · obtain ⟨rfl, htail⟩ := List.cons_prefix_cons.1 hpre
    -- The carriage return is the last character of the code or has a line break after it there.
    cases y with
    | nil =>
      obtain ⟨u, rfl⟩ := hy
      exact hcr (by simp)
    | cons x y =>
      exact hticks ((List.suffix_cons x y).trans hy') (List.cons_prefix_cons.1 htail).2

/-! ### The scan of the parts -/

theorem Part.dialect?_fence_eq_some_iff {info code : Text} :
    (Part.fence info code).dialect? = some d ↔ info = d.label.toList := by
  constructor
  · intro h
    simpa [eq_comm] using List.find?_some h
  · rintro rfl
    cases d <;> rfl

variable {render : Renderer} {done : List Dialect}

/-- The pieces of a part for a dialect. -/
def Part.pieces (render : Renderer) (done : List Dialect) (d : Dialect) (count : Dialect → Nat) :
    Part → List Piece
  | text s => s.map .char
  | fence info code =>
    if info = d.label.toList then
      [.fence ⟨backticks ++ d.label.toList ++ ['\n'], code, closing⟩]
    else ((fence info code).shown render done count).map .char

/-- The pieces of some parts for a dialect. -/
def piecesOfParts (render : Renderer) (done : List Dialect) (d : Dialect) :
    (Dialect → Nat) → List Part → List Piece
  | _, [] => []
  | count, p :: ps =>
    p.pieces render done d count ++ piecesOfParts render done d (p.counted count) ps

/-- What follows a fence is empty or begins with a line break, and what follows a text that does not
end in a line break is empty. -/
theorem shownFrom_edge (render : Renderer) (done : List Dialect) {p : Part} {ps : List Part}
    (h : (p :: ps).IsChain Part.Meets) (count : Dialect → Nat) :
    shownFrom render done count ps = [] ∨ match p with
      | .text s => s.getLast? = some '\n'
      | .fence _ _ => (shownFrom render done count ps).head? = some '\n' := by
  cases ps with
  | nil => exact Or.inl rfl
  | cons q ps =>
    have hmeets := (List.isChain_cons_cons.1 h).1
    right
    cases p with
    | text s =>
      cases q with
      | text t => exact hmeets.elim
      | fence info code => exact hmeets
    | fence info code =>
      cases q with
      | text t =>
        have hmeets : t.head? = some '\n' := hmeets
        rw [shownFrom, Part.shown, List.head?_append, hmeets]
        rfl
      | fence _ _ => exact hmeets.elim

/-- After passes for other dialects the fences of a dialect are found among the parts. -/
theorem scan_shownFrom (hd : d ∉ done) (count : Dialect → Nat) {ps : List Part}
    (hok : ∀ p ∈ ps, p.Ok) (hmeets : ps.IsChain Part.Meets) :
    Scan d (shownFrom render done count ps) (piecesOfParts render done d count ps) := by
  induction ps generalizing count with
  | nil => exact .nil
  | cons p ps ih =>
    have hrest := ih (p.counted count) (fun q hq => hok q (List.mem_cons_of_mem _ hq)) hmeets.tail
    have hp := hok p List.mem_cons_self
    have hedge := shownFrom_edge render done hmeets (p.counted count)
    rw [shownFrom, piecesOfParts]
    cases p with
    | text s => exact scan_text hp hedge hrest
    | fence info code =>
      rw [Part.pieces]
      split_ifs with hinfo
      · subst hinfo
        have hraw : (Part.fence d.label.toList code).shown render done count =
            (Part.fence d.label.toList code).raw := by
          rw [Part.shown, Part.dialect?_fence_eq_some_iff.2 rfl]
          exact if_neg hd
        rw [hraw]
        exact .fence (found?_fence hp _) hrest
      · rw [Part.shown]
        split
        · split_ifs
          · exact (isInert_fragment ..).scan_append hrest
          · exact scan_other hp hinfo hedge hrest
        · exact scan_other hp hinfo hedge hrest

/-! ### One pass -/

theorem Part.counted_of_fence {info code : Text} (count : Dialect → Nat) (d : Dialect) :
    (fence info code).counted count d = if info = d.label.toList then count d + 1 else count d := by
  rw [counted]
  exact if_congr dialect?_fence_eq_some_iff rfl rfl

/-- A part with another label is left by a pass. -/
theorem Part.shown_append_singleton {info code : Text} (h : info ≠ d.label.toList)
    (count : Dialect → Nat) : (fence info code).shown render (done ++ [d]) count =
      (fence info code).shown render done count := by
  rw [shown, shown]
  cases hdialect : (fence info code).dialect? with
  | none => rfl
  | some e =>
    have hne : e ≠ d := by
      rintro rfl
      exact h (dialect?_fence_eq_some_iff.1 hdialect)
    simp only [List.mem_append, List.mem_singleton, hne, or_false]

/-- A pass over the parts replaces the fences of its dialect. -/
theorem withFragments_piecesOfParts (count : Dialect → Nat) (ps : List Part) :
    withFragments render d (count d) (piecesOfParts render done d count ps) =
      shownFrom render (done ++ [d]) count ps := by
  induction ps generalizing count with
  | nil => rfl
  | cons p ps ih =>
    rw [piecesOfParts, shownFrom, ← ih]
    cases p with
    | text s => exact withFragments_map_char_append s
    | fence info code =>
      rw [Part.pieces, Part.counted_of_fence]
      split_ifs with hinfo
      · subst hinfo
        rw [Part.shown, Part.dialect?_fence_eq_some_iff.2 rfl]
        simp
      · rw [withFragments_map_char_append, Part.shown_append_singleton hinfo]

/-- The code of a fence of a dialect. -/
def Part.source? (d : Dialect) : Part → Option Text
  | text _ => none
  | fence info code => if info = d.label.toList then some code else none

/-- The sources of the blocks of a dialect do not depend on passes for other dialects. -/
theorem map_source_blocksFrom_piecesOfParts (i start : Nat) (count : Dialect → Nat)
    (ps : List Part) : (blocksFrom d i start (piecesOfParts render done d count ps)).map
      Block.source = ps.filterMap (Part.source? d) := by
  induction ps generalizing i start count with
  | nil => rfl
  | cons p ps ih =>
    rw [piecesOfParts, List.filterMap_cons]
    cases p with
    | text s =>
      rw [Part.pieces, blocksFrom_map_char_append, ih]
      rfl
    | fence info code =>
      rw [Part.pieces, Part.source?]
      split_ifs with hinfo
      · rw [List.cons_append, blocksFrom, List.map_cons, List.nil_append, ih]
      · rw [blocksFrom_map_char_append, ih]

/-! ### Several passes -/

theorem Part.shown_nil (count : Dialect → Nat) (p : Part) : p.shown render [] count = p.raw := by
  cases p with
  | text s => rfl
  | fence info code =>
    rw [shown]
    split <;> simp

theorem shownFrom_nil (count : Dialect → Nat) (ps : List Part) :
    shownFrom render [] count ps = ps.flatMap Part.raw := by
  induction ps generalizing count with
  | nil => rfl
  | cons p ps ih => rw [shownFrom, ih, Part.shown_nil, List.flatMap_cons]

/-- The set of the dialects that are done matters, not their order. -/
theorem shownFrom_congr {done' : List Dialect} (h : ∀ d, d ∈ done ↔ d ∈ done')
    (count : Dialect → Nat) (ps : List Part) :
    shownFrom render done count ps = shownFrom render done' count ps := by
  induction ps generalizing count with
  | nil => rfl
  | cons p ps ih =>
    rw [shownFrom, shownFrom, ih]
    cases p with
    | text s => rfl
    | fence info code => simp only [Part.shown, h]

namespace Outline

variable (doc : Outline)

theorem shown_nil (render : Renderer) : doc.shown render [] = doc.text := shownFrom_nil _ _

theorem pieces_shown (hd : d ∉ done) : pieces d (doc.shown render done) =
    piecesOfParts render done d (fun _ => 0) doc.parts :=
  scan_iff.1 (scan_shownFrom hd _ doc.ok doc.meets)

/-- A pass replaces the fences of its dialect in what passes for other dialects leave. -/
theorem text_substitute_shown (hd : d ∉ done) :
    (substitute render d (doc.shown render done)).text = doc.shown render (done ++ [d]) := by
  rw [text_substitute_eq_withFragments, doc.pieces_shown hd]
  exact withFragments_piecesOfParts (fun _ => 0) doc.parts

theorem map_source_blocks_shown (hd : d ∉ done) :
    (blocks d (doc.shown render done)).map Block.source = doc.parts.filterMap (Part.source? d) := by
  rw [blocks, doc.pieces_shown hd]
  exact map_source_blocksFrom_piecesOfParts 0 0 _ doc.parts

/-- A pass reports the same after passes for other dialects. -/
theorem outcomes_substitute_shown (render : Renderer) (hd : d ∉ done) :
    (substitute render d (doc.shown render done)).rendered =
        (substitute render d doc.text).rendered ∧
      (substitute render d (doc.shown render done)).failed =
        (substitute render d doc.text).failed := by
  refine outcomes_substitute_congr render d ?_
  rw [doc.map_source_blocks_shown hd, ← doc.shown_nil render,
    doc.map_source_blocks_shown List.not_mem_nil]

theorem foldl_followedBy (order : List Dialect) {s : Substitution}
    (hs : s.text = doc.shown render done) (hnodup : (done ++ order).Nodup) :
    let t := order.foldl (fun s d => s.followedBy (substitute render d s.text)) s
    t.text = doc.shown render (done ++ order) ∧
      t.rendered = s.rendered ++
        order.flatMap (fun d => (substitute render d doc.text).rendered) ∧
      t.failed = s.failed ++ order.flatMap (fun d => (substitute render d doc.text).failed) := by
  induction order generalizing done s with
  | nil => simpa using hs
  | cons d order ih =>
    have hd : d ∉ done := fun h =>
      (List.nodup_append.1 hnodup).2.2 d h d List.mem_cons_self rfl
    obtain ⟨hrendered, hfailed⟩ := doc.outcomes_substitute_shown render hd
    have hnext : (s.followedBy (substitute render d s.text)).text =
        doc.shown render (done ++ [d]) := by
      rw [Substitution.text_followedBy, hs, doc.text_substitute_shown hd]
    rw [List.append_cons] at hnodup ⊢
    obtain ⟨htext, hr, hf⟩ := ih hnext hnodup
    refine ⟨htext, hr.trans ?_, hf.trans ?_⟩
    · rw [Substitution.rendered_followedBy, hs, hrendered, List.flatMap_cons, List.append_assoc]
    · rw [Substitution.failed_followedBy, hs, hfailed, List.flatMap_cons, List.append_assoc]

/-- Passes for some dialects replace the fences of these dialects, and each of them reports what it
reports alone. -/
theorem substituteIn_outline (render : Renderer) {order : List Dialect} (h : order.Nodup) :
    (substituteIn render order doc.text).text = doc.shown render order ∧
      (substituteIn render order doc.text).rendered =
        order.flatMap (fun d => (substitute render d doc.text).rendered) ∧
      (substituteIn render order doc.text).failed =
        order.flatMap (fun d => (substitute render d doc.text).failed) := by
  rw [substituteIn_eq]
  have hs : (Substitution.unchanged doc.text).text = doc.shown render [] :=
    (doc.shown_nil render).symm
  exact doc.foldl_followedBy order hs h

end Outline

/-- Both passes put in the place of each diagram fence of a document its own fragment and keep all
else. In the other order they leave the same text and report the same. -/
theorem substituteAll_outline (render : Renderer) (doc : Outline) :
    let both := substituteAll render doc.text
    let other := substituteIn render [.mermaid, .plantUml] doc.text
    both.text = doc.shown render Dialect.all ∧
      other.text = both.text ∧
      other.rendered.Perm both.rendered ∧
      other.failed.Perm both.failed := by
  intro both other
  obtain ⟨htext, hrendered, hfailed⟩ :=
    doc.substituteIn_outline render (show Dialect.all.Nodup by decide)
  obtain ⟨htext', hrendered', hfailed'⟩ :=
    doc.substituteIn_outline render (show [Dialect.mermaid, .plantUml].Nodup by decide)
  have hperm : [.mermaid, .plantUml].Perm Dialect.all := .swap ..
  refine ⟨htext, ?_, ?_, ?_⟩
  · exact htext'.trans ((shownFrom_congr (fun d => hperm.mem_iff) _ _).trans htext.symm)
  · simp only [both, other, substituteAll, hrendered, hrendered']
    exact hperm.flatMap_right _
  · simp only [both, other, substituteAll, hfailed, hfailed']
    exact hperm.flatMap_right _

end DocPreview.Diagram
