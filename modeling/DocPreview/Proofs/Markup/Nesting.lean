import DocPreview.Markup.Html
import DocPreview.Proofs.Markup.Fragment

/-!
# Trees that are converted alike

Of the tree of a document only two things tell whether it is converted: the attributes of its
elements, and the imports and exports outside of all elements. Matching tags keeps what two lists
of nodes have in common there, so a fragment can be put in the place of another one, whatever stands
before it and behind it.

## Main definitions

* `Node.IsSound`: nodes whose attributes can all be written.
* `SameUse`: nodes that are converted alike.
* `Piece.IsPlain`: pieces without tags and elements.

## Main results

* `nestAll_append`: tags are matched alike behind the same pieces.
* `nestAll_plain`: plain pieces make sound nodes.
-/

namespace DocPreview.Markup

open Piece (OpenTags OuterTags Surroundings nestAll nestOne applyTag checkTag closeAll addNode)

variable {xs ys zs : List Node} {n m : Node} {ps qs rest : List Piece} {p : Piece}
  {t t' : Tag Point}
  {stop stop' : Point} {around : Surroundings} {outer : OuterTags} {openTags openTags' : OpenTags}

/-- An attribute that can be written. -/
def Attribute.IsSound (a : Attribute Point) : Prop := (Html.attributeOf a).toBool

/-- A group whose attributes can be written. -/
def Group.IsSound : Group → Prop
  | .element _ attributes => ∀ a ∈ attributes, a.IsSound
  | _ => True

/-- A node whose elements have only attributes that can be written. -/
inductive Node.IsSound : Node → Prop
  | leaf (l : Leaf) : IsSound (.leaf l)
  | group {g : Group} {children : List Node} (hg : g.IsSound) (h : ∀ n ∈ children, n.IsSound) :
      IsSound (.group g children)

theorem isSound_group_iff {g : Group} :
    (Node.group g xs).IsSound ↔ g.IsSound ∧ ∀ n ∈ xs, n.IsSound := by
  constructor
  · rintro (_ | ⟨hg, h⟩)
    exact ⟨hg, h⟩
  · rintro ⟨hg, h⟩
    exact .group hg h

/-- The imports and exports that a node stands for. -/
def Node.module? : Node → Option (List Script.Node × Content)
  | .leaf (.module items source) => some (items, source)
  | _ => none

/-- Nodes of which the same is used: they are sound or not, and they have the same imports and
exports. -/
structure SameUse (xs ys : List Node) : Prop where
  sound : (∀ n ∈ xs, n.IsSound) ↔ ∀ n ∈ ys, n.IsSound
  modules : xs.filterMap Node.module? = ys.filterMap Node.module?

namespace SameUse

theorem refl (xs : List Node) : SameUse xs xs := ⟨Iff.rfl, rfl⟩

theorem reverse (h : SameUse xs ys) : SameUse xs.reverse ys.reverse where
  sound := by simpa only [List.mem_reverse] using h.sound
  modules := by rw [List.filterMap_reverse, List.filterMap_reverse, h.modules]

theorem cons (h : SameUse xs ys) (hsound : n.IsSound ↔ m.IsSound)
    (hmodule : n.module? = m.module?) : SameUse (n :: xs) (m :: ys) where
  sound := by rw [List.forall_mem_cons, List.forall_mem_cons, hsound, h.sound]
  modules := by rw [List.filterMap_cons, List.filterMap_cons, hmodule, h.modules]

theorem cons_group (h : SameUse xs ys) (g : Group) {children children' : List Node}
    (hchildren : SameUse children children') :
    SameUse (.group g children :: xs) (.group g children' :: ys) :=
  h.cons (by rw [isSound_group_iff, isSound_group_iff, hchildren.sound]) rfl

theorem trans (h : SameUse xs ys) (h' : SameUse ys zs) : SameUse xs zs :=
  ⟨h.sound.trans h'.sound, h.modules.trans h'.modules⟩

theorem symm (h : SameUse xs ys) : SameUse ys xs := ⟨h.sound.symm, h.modules.symm⟩

end SameUse

/-- Joining a text with the one before it changes nothing of use. -/
theorem sameUse_addNode (n : Node) (xs : List Node) : SameUse (addNode n xs) (n :: xs) := by
  unfold addNode
  split
  · exact ⟨by simp [Node.IsSound.leaf], rfl⟩
  · exact .refl _

theorem SameUse.addNode (h : SameUse xs ys) (n : Node) : SameUse (addNode n xs) (addNode n ys) :=
  (sameUse_addNode n xs).trans ((h.cons Iff.rfl rfl).trans (sameUse_addNode n ys).symm)

/-- Open tags with the same tags, in front of which nodes of the same use stand. -/
abbrev SameTags : OpenTags → OpenTags → Prop :=
  List.Forall₂ fun x y => x.1 = y.1 ∧ SameUse x.2 y.2

/-- Results that are related, or both failures. -/
inductive SameOutcome {α : Type} (r : α → α → Prop) : Except Failure α → Except Failure α → Prop
  | ok {a b : α} (h : r a b) : SameOutcome r (.ok a) (.ok b)
  | error (e e' : Failure) : SameOutcome r (.error e) (.error e')

namespace SameOutcome

variable {α β : Type} {r : α → α → Prop} {q : β → β → Prop} {x y : Except Failure α}

theorem bind {f g : α → Except Failure β} (h : SameOutcome r x y)
    (hf : ∀ {a b}, r a b → SameOutcome q (f a) (g b)) : SameOutcome q (x >>= f) (y >>= g) := by
  cases h with
  | ok h => exact hf h
  | error e e' => exact .error e e'

theorem refl (hr : ∀ a, r a a) (x : Except Failure α) : SameOutcome r x x := by
  cases x with
  | error e => exact .error e e
  | ok a => exact .ok (hr a)

theorem trans {z : Except Failure α} (hr : ∀ {a b c}, r a b → r b c → r a c)
    (h : SameOutcome r x y) (h' : SameOutcome r y z) : SameOutcome r x z := by
  cases h with
  | ok h =>
    cases h' with
    | ok h' => exact .ok (hr h h')
  | error e e' =>
    cases h' with
    | error _ e'' => exact .error e e''

theorem symm (hr : ∀ {a b}, r a b → r b a) (h : SameOutcome r x y) : SameOutcome r y x := by
  cases h with
  | ok h => exact .ok (hr h)
  | error e e' => exact .error e' e

theorem toBool_eq (h : SameOutcome r x y) : x.toBool = y.toBool := by
  cases h <;> rfl

end SameOutcome

/-- Open tags and nodes of the same use. -/
structure SameState (x y : OpenTags × List Node) : Prop where
  openTags : SameTags x.1 y.1
  done : SameUse x.2 y.2

theorem sameState_applyTag (ht : SameTags openTags openTags') (h : SameUse xs ys) (t : Tag Point) :
    SameOutcome SameState (applyTag around outer openTags xs t)
      (applyTag around outer openTags' ys t) := by
  have hempty : openTags.isEmpty = openTags'.isEmpty := by cases ht <;> rfl
  unfold applyTag
  rw [hempty]
  cases checkTag t (!openTags'.isEmpty || !outer.isEmpty) with
  | error e => exact .error e e
  | ok _ =>
    change SameOutcome SameState (if _ then _ else _) (if _ then _ else _)
    split
    · cases ht with
      | nil =>
        cases outer with
        | nil => exact .ok ⟨.nil, h⟩
        | cons o outer =>
          change SameOutcome SameState (if _ then _ else _) (if _ then _ else _)
          split <;> exact .error _ _
      | @cons x y _ _ hxy htail =>
        obtain ⟨o, before⟩ := x
        obtain ⟨o', before'⟩ := y
        obtain ⟨rfl, hbefore⟩ := hxy
        change SameOutcome SameState (if _ then _ else _) (if _ then _ else _)
        split
        · exact .error _ _
        · exact .ok ⟨htail, hbefore.cons_group _ h.reverse⟩
    · split
      · exact .ok ⟨ht, h.cons Iff.rfl rfl⟩
      · exact .ok ⟨.cons ⟨rfl, h⟩ ht, .refl []⟩

theorem SameTags.map_fst_eq (ht : SameTags openTags openTags') :
    openTags.map (·.1) = openTags'.map (·.1) := by
  induction ht with
  | nil => rfl
  | cons hx _ ih => rw [List.map_cons, List.map_cons, hx.1, ih]

/-- Tags are matched alike behind the same pieces. -/
theorem nestAll_append (ht : SameTags openTags openTags') (h : SameUse xs ys)
    (hrest : ∀ {openTags openTags' xs ys}, SameTags openTags openTags' → SameUse xs ys →
      SameOutcome SameUse (nestAll stop around outer openTags xs qs)
        (nestAll stop' around outer openTags' ys rest)) (ps : List Piece) :
    SameOutcome SameUse (nestAll stop around outer openTags xs (ps ++ qs))
      (nestAll stop' around outer openTags' ys (ps ++ rest)) := by
  induction ps generalizing openTags openTags' xs ys with
  | nil => exact hrest ht h
  | cons p ps ih =>
    have hnode (q : Piece) : SameOutcome SameUse
        (nestOne (openTags.map (·.1) ++ outer) q >>= fun n =>
          nestAll stop around outer openTags (addNode n xs) (ps ++ qs))
        (nestOne (openTags'.map (·.1) ++ outer) q >>= fun n =>
          nestAll stop' around outer openTags' (addNode n ys) (ps ++ rest)) := by
      rw [← ht.map_fst_eq]
      cases nestOne (openTags.map (·.1) ++ outer) q with
      | error e => exact .error e e
      | ok n => exact ih ht (h.addNode n)
    cases p with
    | tag t => exact (sameState_applyTag ht h t).bind fun hstate => ih hstate.openTags hstate.done
    | leaf l => exact hnode _
    | group g start stop children => exact hnode _

/-! ### Fragments -/

theorem nestAll_open {name : String} {attributes : List (Attribute Point)}
    (ht : t.Opens name attributes) (rest : List Piece) :
    nestAll stop around outer openTags xs (.tag t :: rest) =
      nestAll stop around outer ((t, xs) :: openTags) [] rest := by
  have happly : applyTag around outer openTags xs t = .ok ((t, xs) :: openTags, []) := by
    unfold applyTag checkTag
    simp only [ht.isClosing, ht.isSelfClosing]
    rfl
  rw [nestAll, happly]
  rfl

theorem nestAll_close {name : String} {attributes : List (Attribute Point)}
    (ht : t.Opens name attributes) (ht' : t'.Closes name) (rest : List Piece) :
    nestAll stop around outer ((t, ys) :: openTags) xs (.tag t' :: rest) =
      nestAll stop around outer openTags
        (.group (.element (some name) attributes) xs.reverse :: ys) rest := by
  have happly : applyTag around outer ((t, ys) :: openTags) xs t' =
      .ok (openTags, .group (.element (some name) attributes) xs.reverse :: ys) := by
    unfold applyTag checkTag
    simp [ht'.isClosing, ht'.isSelfClosing, ht'.attributes, ht'.name, ht.name, ht.attributes]
    rfl
  rw [nestAll, happly]
  rfl

/-- A piece without tags and elements. -/
inductive Piece.IsPlain : Piece → Prop
  | leaf (l : Leaf) : IsPlain (.leaf l)
  | group {g : Group} {start stop : Point} {children : List Piece}
      (hg : ∀ name attributes, g ≠ .element name attributes) (h : ∀ p ∈ children, p.IsPlain) :
      IsPlain (.group g start stop children)

theorem Group.isSound_of_ne {g : Group} (h : ∀ name attributes, g ≠ .element name attributes) :
    g.IsSound := by
  cases g with
  | element name attributes => exact absurd rfl (h name attributes)
  | _ => trivial

mutual

/-- A plain piece makes a sound node. -/
theorem exists_nestOne_plain (outer : OuterTags) : ∀ p : Piece, p.IsPlain →
    ∃ n, nestOne outer p = .ok n ∧ n.IsSound
  | .leaf l, _ => ⟨_, rfl, .leaf l⟩
  | .tag t, h => by cases h
  | .group g start stop children, h => by
    cases h with
    | group hg h =>
      obtain ⟨ys, hys, hread⟩ :=
        exists_nestAll_plain stop (some (g.shown, start)) outer [] [] children h (by simp)
      have hnil := hread []
      rw [List.append_nil] at hnil
      refine ⟨.group g ys.reverse, ?_, .group (Group.isSound_of_ne hg) fun n hn =>
        hys n (List.mem_reverse.1 hn)⟩
      rw [nestOne, hnil]
      rfl

/-- Plain pieces make sound nodes. -/
theorem exists_nestAll_plain (stop : Point) (around : Surroundings) (outer : OuterTags)
    (openTags : OpenTags) (xs : List Node) : ∀ ps : List Piece, (∀ p ∈ ps, p.IsPlain) →
      (∀ n ∈ xs, n.IsSound) → ∃ ys, (∀ n ∈ ys, n.IsSound) ∧ ∀ rest,
        nestAll stop around outer openTags xs (ps ++ rest) =
          nestAll stop around outer openTags ys rest
  | [], _, hxs => ⟨xs, hxs, fun _ => rfl⟩
  | p :: ps, hps, hxs => by
    rw [List.forall_mem_cons] at hps
    obtain ⟨n, hn, hsound⟩ := exists_nestOne_plain (openTags.map (·.1) ++ outer) p hps.1
    have hadd : ∀ m ∈ addNode n xs, m.IsSound :=
      (sameUse_addNode n xs).sound.2 (List.forall_mem_cons.2 ⟨hsound, hxs⟩)
    obtain ⟨ys, hys, hread⟩ :=
      exists_nestAll_plain stop around outer openTags (addNode n xs) ps hps.2 hadd
    refine ⟨ys, hys, fun rest => ?_⟩
    rw [← hread rest]
    cases p with
    | tag t => cases hps.1
    | leaf l => rw [List.cons_append, nestAll, bind_eq_of_eq_ok hn]; simp
    | group g start stop children => rw [List.cons_append, nestAll, bind_eq_of_eq_ok hn]; simp

end

end DocPreview.Markup
