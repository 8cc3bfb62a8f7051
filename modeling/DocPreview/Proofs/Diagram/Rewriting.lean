import DocPreview.Proofs.Diagram.Fragment
import DocPreview.Proofs.Diagram.Substitution

/-!
# Passes leave no fence

The text that a pass leaves is read piece by piece: a character of the old text stands for itself,
and a fragment stands for a fence. Since fragments are inert, whatever begins a fence in the new
text lies between the fragments, so it stood in the old text at the same place, and so did the
closing characters after it. A pass therefore creates no fence of any dialect, and it leaves none of
its own: neither inside a fragment, nor across its edges, nor by taking out the text between an
opening line and a closing.

## Main definitions

* `withFragments`: pieces with their fences replaced.

## Main results

* `exists_piece_of_found?_withFragments`: a fence of the new text begins at a character of the old
  one that begins a fence.
* `blocks_substitute_self`, `blocks_substitute_of_blocks`: a pass leaves no fence of its dialect,
  and brings in no fence.
* `substituteAll_leaves_no_fence`: both passes leave no fence, so that a second run changes nothing.
-/

namespace DocPreview.Diagram

open Text

variable {render : Renderer} {d e : Dialect} {i : Nat} {ps : List Piece}

/-- The text of some pieces with their fences replaced, the first one having number `index`. -/
def withFragments (render : Renderer) (d : Dialect) : Nat → List Piece → Text
  | _, [] => []
  | index, .char c :: ps => c :: withFragments render d index ps
  | index, .fence f :: ps =>
    fragment d (diagramId d index) (render d f.source) ++ withFragments render d (index + 1) ps

@[simp] theorem withFragments_nil : withFragments render d i [] = [] := rfl

@[simp] theorem withFragments_char (c : Char) :
    withFragments render d i (.char c :: ps) = c :: withFragments render d i ps := rfl

@[simp] theorem withFragments_fence (f : Found) : withFragments render d i (.fence f :: ps) =
    fragment d (diagramId d i) (render d f.source) ++ withFragments render d (i + 1) ps := rfl

/-- Characters stay as they are. -/
@[simp] theorem withFragments_map_char_append (s : Text) : withFragments render d i
    (s.map .char ++ ps) = s ++ withFragments render d i ps := by
  induction s with
  | nil => rfl
  | cons c s ih => rw [List.map_cons, List.cons_append, withFragments_char, ih, List.cons_append]

theorem withFragments_append (i : Nat) (ps qs : List Piece) :
    withFragments render d i (ps ++ qs) = withFragments render d i ps ++
      withFragments render d (i + ((gapsOf ps).length - 1)) qs := by
  induction ps generalizing i with
  | nil => rfl
  | cons p ps ih =>
    cases p with
    | char c =>
      rw [List.cons_append, withFragments_char, ih, withFragments_char, gapsOf,
        List.length_modifyHead, List.cons_append]
    | fence f =>
      have hpos := List.length_pos_iff.2 (gapsOf_ne_nil ps)
      rw [List.cons_append, withFragments_fence, ih, withFragments_fence, gapsOf,
        List.length_cons, List.append_assoc, show i + 1 + ((gapsOf ps).length - 1) =
          i + ((gapsOf ps).length + 1 - 1) by omega]

theorem interleave_shown (index start : Nat) (ps : List Piece) :
    interleave (gapsOf ps) ((blocksFrom d index start ps).map (Block.shown render)) =
      withFragments render d index ps := by
  induction ps generalizing index start with
  | nil => rfl
  | cons p ps ih =>
    cases p with
    | char c =>
      rw [gapsOf, interleave_modifyHead c (gapsOf_ne_nil ps), blocksFrom, ih, withFragments_char]
    | fence f =>
      rw [gapsOf, blocksFrom, List.map_cons, interleave_cons, ih]
      rfl

/-- A pass replaces the fences among the pieces of the text. -/
theorem text_substitute_eq_withFragments (render : Renderer) (d : Dialect) (text : Text) :
    (substitute render d text).text = withFragments render d 0 (pieces d text) :=
  (text_substitute render d text).trans (interleave_shown 0 0 (pieces d text))

/-! ### Fences of the new text -/

/-- What begins the new text and has no angle bracket began the old one. -/
theorem exists_append_of_prefix_withFragments {p : Text} (hp : p <+: withFragments render d i ps)
    (hlt : '<' ∉ p) : ∃ qs, ps = p.map .char ++ qs := by
  induction p generalizing ps with
  | nil => exact ⟨ps, rfl⟩
  | cons c p ih =>
    cases ps with
    | nil => simp at hp
    | cons q ps =>
      cases q with
      | char x =>
        rw [withFragments_char, List.cons_prefix_cons] at hp
        obtain ⟨rfl, hp⟩ := hp
        obtain ⟨qs, rfl⟩ := ih hp fun h => hlt (List.mem_cons_of_mem _ h)
        exact ⟨qs, rfl⟩
      | fence f =>
        obtain ⟨inner, hf⟩ := (isInert_fragment d d i (render d f.source)).shape
        rw [withFragments_fence, hf, List.cons_append, List.cons_prefix_cons] at hp
        exact absurd (hp.1 ▸ List.mem_cons_self) hlt

/-- Closing characters of the new text stood in the old one. -/
theorem closing_infix_of_withFragments (h : closing <:+: withFragments render d i ps) :
    closing <:+: ps.flatMap Piece.raw := by
  induction ps generalizing i with
  | nil => exact h
  | cons q ps ih =>
    cases q with
    | char c =>
      rcases List.infix_cons_iff.1 h with hp | h
      · obtain ⟨qs, hqs⟩ := exists_append_of_prefix_withFragments
          (show closing <+: withFragments render d i (.char c :: ps) from hp)
          langle_notMem_closing
        rw [hqs, List.flatMap_append, List.flatMap_map]
        simp only [Piece.raw, List.flatMap_singleton']
        exact (List.prefix_append closing _).isInfix
      · exact (ih h).trans (List.suffix_cons ..).isInfix
    | fence f =>
      have h := (isInert_fragment d d i (render d f.source)).closing_infix_right h
      exact (ih h).trans (List.suffix_append ..).isInfix

/-- If a fence begins the new text, one of the same dialect begins the old text at a character. -/
theorem exists_char_of_found?_withFragments (h : (found? e (withFragments render d i ps)).isSome) :
    (found? e (ps.flatMap Piece.raw)).isSome ∧ ∃ c qs, ps = .char c :: qs := by
  obtain ⟨o, inner, ho, heq, hc⟩ := isSome_found?_iff.1 h
  obtain ⟨qs, rfl⟩ := exists_append_of_prefix_withFragments (p := o) ⟨inner, heq.symm⟩
    (langle_notMem_opening ho)
  rw [withFragments_map_char_append, List.append_cancel_left_eq] at heq
  obtain ⟨c, o', rfl⟩ := List.exists_cons_of_ne_nil ho.ne_nil
  refine ⟨isSome_found?_iff.2 ⟨c :: o', qs.flatMap Piece.raw, ho, ?_, ?_⟩, c, _, rfl⟩
  · rw [List.flatMap_append, List.flatMap_map]
    simp only [Piece.raw, List.flatMap_singleton']
  · exact closing_infix_of_withFragments (heq ▸ hc)

/-- A fence of the new text begins at a character of the old one that begins a fence. -/
theorem exists_piece_of_found?_withFragments {t : Text} (ht : t <:+ withFragments render d i ps)
    (h : (found? e t).isSome) :
    ∃ c qs, (.char c :: qs) <:+ ps ∧ (found? e (c :: qs.flatMap Piece.raw)).isSome := by
  induction ps generalizing i with
  | nil =>
    obtain rfl := List.suffix_nil.1 ht
    simp [found?_nil] at h
  | cons q ps ih =>
    have hlater (hqs : ∃ c qs, (.char c :: qs) <:+ ps ∧
        (found? e (c :: qs.flatMap Piece.raw)).isSome) : ∃ c qs, (.char c :: qs) <:+ q :: ps ∧
        (found? e (c :: qs.flatMap Piece.raw)).isSome := by
      obtain ⟨c, qs, hqs, hf⟩ := hqs
      exact ⟨c, qs, hqs.trans (List.suffix_cons ..), hf⟩
    cases q with
    | char c =>
      rcases List.suffix_cons_iff.1 ht with rfl | ht
      · have hold := exists_char_of_found?_withFragments
          (show (found? e (withFragments render d i (.char c :: ps))).isSome from h)
        exact ⟨c, ps, List.suffix_rfl, hold.1⟩
      · exact hlater (ih ht)
    | fence f =>
      rcases suffix_append_cases ht with ht | ⟨v, hne, hv, rfl⟩
      · exact hlater (ih ht)
      · rw [(isInert_fragment d d i _).found?_eq_none hv hne] at h
        simp at h

/-! ### Blocks of the new text -/

/-- A pass leaves no fence of its dialect. -/
theorem blocks_substitute_self (render : Renderer) (d : Dialect) (text : Text) :
    blocks d (substitute render d text).text = [] := by
  rw [text_substitute_eq_withFragments, blocks_eq_nil_iff]
  intro t ht
  by_contra h
  obtain ⟨c, qs, hqs, hf⟩ :=
    exists_piece_of_found?_withFragments ht (Option.isSome_iff_ne_none.2 h)
  rw [(scan_pieces d text).found?_eq_none hqs] at hf
  cases hf

/-- A pass brings in no fence. -/
theorem blocks_substitute_of_blocks (render : Renderer) (d : Dialect) {text : Text}
    (h : blocks e text = []) : blocks e (substitute render d text).text = [] := by
  rw [text_substitute_eq_withFragments, blocks_eq_nil_iff]
  intro t ht
  by_contra hne
  obtain ⟨c, qs, ⟨qs', hqs⟩, hf⟩ :=
    exists_piece_of_found?_withFragments ht (Option.isSome_iff_ne_none.2 hne)
  have hsuffix : (c :: qs.flatMap Piece.raw) <:+ text := by
    refine ⟨qs'.flatMap Piece.raw, ?_⟩
    have hraw := congrArg (List.flatMap Piece.raw) hqs
    rwa [List.flatMap_append, (scan_pieces d text).flatMap_raw] at hraw
  rw [blocks_eq_nil_iff.1 h _ hsuffix] at hf
  cases hf

/-- A pass over a text without fences of its dialect changes nothing and asks for nothing. -/
theorem substitute_of_blocks_eq_nil (render : Renderer) {d : Dialect} {text : Text}
    (h : blocks d text = []) : substitute render d text = .unchanged text := by
  rw [substitute_eq, h]
  simp [Pass.ofSettled, splice, spliceFrom, Substitution.unchanged, Pass.unchanged]

theorem substituteAll_of_blocks_eq_nil (render : Renderer) {text : Text}
    (h : ∀ d, blocks d text = []) : substituteAll render text = .unchanged text := by
  rw [substituteAll_eq, substitute_of_blocks_eq_nil render (h .plantUml)]
  simp only [Substitution.unchanged, Pass.unchanged]
  rw [substitute_of_blocks_eq_nil render (h .mermaid)]
  rfl

/-- Both passes leave no fence of either dialect, whatever failures are shown in the text. Hence
running them again, with any renderer, changes nothing and asks for nothing. -/
theorem substituteAll_leaves_no_fence (render : Renderer) (text : Text) :
    (∀ d, blocks d (substituteAll render text).text = []) ∧
    ∀ render', substituteAll render' (substituteAll render text).text =
      .unchanged (substituteAll render text).text := by
  have hblocks : ∀ d, blocks d (substituteAll render text).text = [] := by
    rw [substituteAll_eq]
    intro d
    cases d with
    | plantUml => exact blocks_substitute_of_blocks render .mermaid (blocks_substitute_self ..)
    | mermaid => exact blocks_substitute_self ..
  exact ⟨hblocks, fun render' => substituteAll_of_blocks_eq_nil render' hblocks⟩

end DocPreview.Diagram
