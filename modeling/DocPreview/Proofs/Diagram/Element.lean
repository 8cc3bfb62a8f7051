import DocPreview.Proofs.Diagram.Rewriting

/-!
# Fragments as elements

A fragment is an element: a start tag, contents without tags and an end tag. Since each of these
begins with a bracket, an element in the text that a pass leaves lies between the fragments of the
pass, unless it is the beginning of one of them. A PlantUML fragment is never the beginning of a
Mermaid fragment, and among the fragments of a dialect none is the beginning of another one.

## Main definitions

* `IsElement`: the form of fragments.

## Main results

* `IsElement.exists_mem_gapsOf`: an element that begins no fragment lies in a gap.
* `not_fragment_prefix_append`, `fragment_eq_of_prefix_append`: which fragments begin which.
-/

namespace DocPreview.Diagram

open Text

variable {render : Renderer} {d : Dialect} {i start : Nat} {ps : List Piece}

/-- A start tag, contents without tags, and an end tag. -/
structure IsElement (s : Text) : Prop where
  shape : ∃ a b, s = '<' :: (a ++ ('<' :: '/' :: b)) ∧ '<' ∉ a ∧ '<' ∉ b ∧ a ≠ [] ∧
    a.head? ≠ some '/'

/-- What stands in the place of a block is an element. -/
theorem isElement_fragment (d e : Dialect) (i : Nat) (outcome : Except Failure String) :
    IsElement (fragment d (diagramId e i) outcome) := by
  cases outcome with
  | ok svg =>
    refine ⟨"div id=\"".toList ++ ((diagramId e i).toList ++ "\">".toList), "div>".toList,
      by simp [fragment, placeholder], ?_, by decide, by simp, by simp⟩
    simpa using notMem_diagramId (x := '<') (by decide) e i
  | error failure =>
    refine ⟨"p>".toList ++ (d.displayName.toList ++ (" Error: ".toList ++
      inlineText failure.message.toList)), "p>".toList, by simp [fragment, failureParagraph_eq],
      ?_, by decide, by simp, by simp⟩
    have h := notMem_inlineText (x := '<') (by decide) failure.message.toList
    cases d <;> simpa [Dialect.displayName] using h

/-- A suffix of an element that begins with a bracket is the element or its end tag. -/
theorem IsElement.suffix_cases {s v : Text} (hs : IsElement s) (hv : ('<' :: v) <:+ s) :
    '<' :: v = s ∨ v.head? = some '/' := by
  obtain ⟨a, b, rfl, ha, hb, -, -⟩ := hs.shape
  rcases List.suffix_cons_iff.1 hv with h | h
  · exact Or.inl h
  · refine Or.inr ?_
    rcases suffix_append_cases h with h | ⟨u, hne, hu, heq⟩
    · rcases List.suffix_cons_iff.1 h with h | h
      · rw [List.cons.injEq] at h
        rw [h.2]
        rfl
      · rcases List.suffix_cons_iff.1 h with h | h
        · simp at h
        · exact absurd (h.subset List.mem_cons_self) hb
    · obtain ⟨x, u, rfl⟩ := List.exists_cons_of_ne_nil hne
      rw [List.cons_append, List.cons.injEq] at heq
      exact absurd (heq.1 ▸ hu.subset List.mem_cons_self) ha

/-- An element that begins in another element begins where that one does. -/
theorem IsElement.eq_of_prefix_append {p s v w : Text} (hp : IsElement p) (hs : IsElement s)
    (hv : v <:+ s) (hne : v ≠ []) (h : p <+: v ++ w) : v = s := by
  obtain ⟨a, b, rfl, -, -, hane, hhead⟩ := hp.shape
  obtain ⟨x, a, rfl⟩ := List.exists_cons_of_ne_nil hane
  obtain ⟨c, v, rfl⟩ := List.exists_cons_of_ne_nil hne
  rw [List.cons_append, List.cons_append, List.cons_prefix_cons] at h
  obtain ⟨rfl, h⟩ := h
  rcases hs.suffix_cases hv with heq | hslash
  · exact heq
  · obtain ⟨u, rfl⟩ := List.head?_eq_some_iff.1 hslash
    rw [List.cons_append, List.cons_prefix_cons] at h
    exact absurd (by rw [List.head?_cons, h.1]) hhead

/-! ### Fragments that begin other fragments -/

/-- A PlantUML fragment is not the beginning of a Mermaid fragment with what follows it. -/
theorem not_fragment_prefix_append (i j : Nat) (o o' : Except Failure String) (w : Text) :
    ¬ fragment .plantUml (diagramId .plantUml i) o <+:
      fragment .mermaid (diagramId .mermaid j) o' ++ w := by
  cases o <;> cases o' <;>
    simp [fragment, placeholder, failureParagraph_eq, diagramId, Dialect.idStart, Dialect.label,
      Dialect.displayName]

/-- A fragment is not the beginning of another fragment of its dialect with what follows it. -/
theorem fragment_eq_of_prefix_append {i j : Nat} {o o' : Except Failure String} {w : Text}
    (h : fragment d (diagramId d i) o <+: fragment d (diagramId d j) o' ++ w) :
    fragment d (diagramId d i) o = fragment d (diagramId d j) o' := by
  obtain ⟨t, h⟩ := h
  cases o with
  | ok svg =>
    cases o' with
    | ok svg' =>
      have hquote (n : Nat) : '"' ∉ (diagramId d n).toList := notMem_diagramId (by decide) d n
      simp only [fragment, placeholder, String.toList_append, List.append_assoc,
        List.append_cancel_left_eq] at h ⊢
      rw [eq_of_append_cons_eq (hquote i) (hquote j) h]
    | error e' => simp [fragment, placeholder, failureParagraph_eq] at h
  | error e =>
    cases o' with
    | ok svg' => simp [fragment, placeholder, failureParagraph_eq] at h
    | error e' =>
      have hangle (e : Failure) : '<' ∉ inlineText e.message.toList :=
        notMem_inlineText (by decide) _
      simp only [fragment, failureParagraph_eq, List.append_assoc,
        List.append_cancel_left_eq] at h ⊢
      rw [eq_of_append_cons_eq (hangle e) (hangle e') h]

/-! ### Elements in the text of a pass -/

/-- An end tag that begins the text of a pass began the old one, since fragments begin with start
tags. -/
theorem exists_append_of_endTag {b : Text} (hb : '<' ∉ b)
    (h : '<' :: '/' :: b <+: withFragments render d i ps) :
    ∃ qs, ps = ('<' :: '/' :: b).map .char ++ qs := by
  cases ps with
  | nil => simp at h
  | cons q ps =>
    cases q with
    | fence f =>
      obtain ⟨a', b', hshape, -, -, hne, hhead⟩ :=
        (isElement_fragment d d i (render d f.source)).shape
      obtain ⟨x, a', rfl⟩ := List.exists_cons_of_ne_nil hne
      rw [withFragments_fence, hshape, List.cons_append, List.cons_append, List.cons_append,
        List.cons_prefix_cons, List.cons_prefix_cons] at h
      exact absurd (by rw [List.head?_cons, ← h.2.1]) hhead
    | char c =>
      rw [withFragments_char, List.cons_prefix_cons] at h
      obtain ⟨rfl, h⟩ := h
      have hslash : '<' ∉ '/' :: b := by simpa using hb
      obtain ⟨qs, rfl⟩ := exists_append_of_prefix_withFragments h hslash
      exact ⟨qs, rfl⟩

/-- An element that begins the text of a pass and begins no fragment began the old text. -/
theorem IsElement.exists_map_char_append {p : Text} (hp : IsElement p)
    (hfrag : ∀ b ∈ blocksFrom d i start ps, ∀ w, ¬ p <+: b.shown render ++ w)
    (h : p <+: withFragments render d i ps) : ∃ qs, ps = p.map .char ++ qs := by
  obtain ⟨a, b, rfl, ha, hb, -, -⟩ := hp.shape
  cases ps with
  | nil => simp at h
  | cons q ps =>
    cases q with
    | fence f =>
      exact absurd h (hfrag _ List.mem_cons_self _)
    | char c =>
      rw [withFragments_char, List.cons_prefix_cons] at h
      obtain ⟨rfl, h⟩ := h
      obtain ⟨qs, rfl⟩ := exists_append_of_prefix_withFragments ((List.prefix_append ..).trans h) ha
      rw [withFragments_map_char_append, List.prefix_append_right_inj] at h
      obtain ⟨rs, rfl⟩ := exists_append_of_endTag hb h
      exact ⟨rs, by simp⟩

/-- An element in the text of a pass that begins no fragment stands in a gap. -/
theorem IsElement.exists_mem_gapsOf {p : Text} (hp : IsElement p)
    (hfrag : ∀ b ∈ blocksFrom d i start ps, ∀ w, ¬ p <+: b.shown render ++ w)
    (h : p <:+: withFragments render d i ps) : ∃ g ∈ gapsOf ps, p <:+: g := by
  induction ps generalizing i start with
  | nil => exact ⟨[], List.mem_cons_self, h⟩
  | cons q ps ih =>
    cases q with
    | char c =>
      obtain ⟨g, gs, hg⟩ := List.exists_cons_of_ne_nil (gapsOf_ne_nil ps)
      rcases List.infix_cons_iff.1 h with h | h
      · obtain ⟨qs, hqs⟩ := hp.exists_map_char_append hfrag
          (show p <+: withFragments render d i (.char c :: ps) from h)
        obtain ⟨g', gs', hg'⟩ := List.exists_cons_of_ne_nil (gapsOf_ne_nil qs)
        rw [hqs, gapsOf_map_char_append, hg']
        exact ⟨_, List.mem_cons_self, (List.prefix_append ..).isInfix⟩
      · obtain ⟨g', hmem, hin⟩ := ih hfrag h
        rw [gapsOf, hg, List.modifyHead_cons]
        rw [hg] at hmem
        rcases List.mem_cons.1 hmem with rfl | hmem
        · exact ⟨_, List.mem_cons_self, hin.trans (List.suffix_cons ..).isInfix⟩
        · exact ⟨g', List.mem_cons_of_mem _ hmem, hin⟩
    | fence f =>
      obtain ⟨t, hpre, hsuffix⟩ := List.infix_iff_prefix_suffix.1 h
      rcases suffix_append_cases hsuffix with hsuffix | ⟨v, hne, hv, rfl⟩
      · obtain ⟨g, hmem, hin⟩ := ih (fun b hb => hfrag b (List.mem_cons_of_mem _ hb))
          (List.infix_iff_prefix_suffix.2 ⟨t, hpre, hsuffix⟩)
        exact ⟨g, List.mem_cons_of_mem _ hmem, hin⟩
      · have hv := hp.eq_of_prefix_append (isElement_fragment d d i _) hv hne hpre
        exact absurd (hv ▸ hpre) (hfrag _ List.mem_cons_self _)

end DocPreview.Diagram
