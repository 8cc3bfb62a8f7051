import DocPreview.Markup.Component
import DocPreview.Proofs.Markup.Nesting

/-!
# What is converted

The nodes of a document are converted exactly if the attributes of their elements can be written,
and of what they are converted to, the module of the document takes its own items only from the
imports and exports. So documents whose nodes are used alike have modules with the same items in
front of their elements, or none of them has a module.

## Main definitions

* `Html.module?`: the imports and exports among what a document is shown as.

## Main results

* `ofDocument_spec`: when nodes are converted, and to which imports and exports.
* `ofItems_congr`: the layout depends on the imports and exports only.
-/

namespace DocPreview.Markup

namespace Html

variable {hs : List Html} {xs : List Node} {notes : Notes}

/-- The imports and exports that a part of a document stands for. -/
def module? : Html → Option (List Script.Node × Content)
  | .module items source => some (items, source)
  | _ => none

theorem filterMap_module?_separate (hs : List Html) :
    (separate hs).filterMap module? = hs.filterMap module? := by
  fun_induction separate hs with
  | case1 => rfl
  | case2 h => rfl
  | case3 h hs _ ih => simp [List.filterMap_cons, ih, lineBreak, module?]

theorem filterMap_module?_noteSection (notes : Notes) :
    (noteSection notes).filterMap module? = [] := by
  unfold noteSection
  split <;> rfl

theorem filterMap_module?_paragraph (children : List Html) :
    (paragraph children).filterMap module? = [] := by
  unfold paragraph
  dsimp only
  split
  · rename_i hall
    rw [List.filterMap_eq_nil_iff]
    rw [Bool.and_eq_true, List.all_eq_true] at hall
    intro h hh
    have hkind := hall.2 h hh
    cases h with
    | module items source => simp at hkind
    | _ => rfl
  · rfl

/-- Attributes can be written together exactly if each of them can. -/
theorem toBool_mapM_iff {α β : Type} {f : α → Except Failure β} {as : List α} :
    (as.mapM f).toBool ↔ ∀ a ∈ as, (f a).toBool := by
  induction as with
  | nil => simp [Except.toBool, pure, Except.pure]
  | cons a as ih =>
    rw [List.mapM_cons, List.forall_mem_cons, ← ih]
    cases f a with
    | error e => exact iff_of_false Bool.false_ne_true fun h => Bool.false_ne_true h.1
    | ok b => cases as.mapM f <;> simp [Except.toBool, bind, Except.bind, pure, Except.pure]

theorem run_ofGroup_element (name : Option String) (attributes : List (Attribute Point))
    (parts : List Node) (children : List Html) (notes : Notes) :
    (ofGroup (.element name attributes) parts children).run notes =
      (attributes.mapM attributeOf).map fun made =>
        ([.component name made children], notes) := by
  have hmapM :
      (attributes.mapM fun a => (liftM (attributeOf a) : Converter Script.Node)).run notes =
      (attributes.mapM attributeOf).map fun made => (made, notes) := by
    induction attributes with
    | nil => rfl
    | cons a attributes ih =>
      rw [List.mapM_cons, List.mapM_cons, StateT.run_bind]
      cases attributeOf a with
      | error e => rfl
      | ok b =>
        change StateT.run (attributes.mapM _ >>= fun more => pure (b :: more)) notes =
          (attributes.mapM attributeOf >>= fun more => pure (b :: more)).map _
        rw [StateT.run_bind, ih]
        cases attributes.mapM attributeOf <;> rfl
  rw [ofGroup, StateT.run_bind, hmapM]
  cases attributes.mapM attributeOf <;> rfl

/-- A group is converted if its attributes can be written, and it gives no imports and exports. -/
theorem exists_ofGroup {g : Group} (hg : g.IsSound) (parts : List Node) (children : List Html)
    (notes : Notes) :
    ∃ hs notes', (ofGroup g parts children).run notes = .ok (hs, notes') ∧
      hs.filterMap module? = [] := by
  cases g with
  | element name attributes =>
    obtain ⟨made, hmade⟩ := exists_eq_ok_of_toBool (toBool_mapM_iff.2 hg)
    exact ⟨_, _, by rw [run_ofGroup_element, hmade]; rfl, rfl⟩
  | paragraph => exact ⟨_, _, rfl, filterMap_module?_paragraph children⟩
  | table alignments => exact ⟨_, _, rfl, by cases children <;> rfl⟩
  | _ => exact ⟨_, _, rfl, rfl⟩

theorem isSound_of_ofGroup {g : Group} {parts : List Node} {children : List Html}
    {r : List Html × Notes} (h : (ofGroup g parts children).run notes = .ok r) : g.IsSound := by
  cases g with
  | element name attributes =>
    rw [run_ofGroup_element] at h
    cases hmade : attributes.mapM attributeOf with
    | error e => rw [hmade] at h; cases h
    | ok made => exact toBool_mapM_iff.1 (by rw [hmade]; rfl)
  | _ => trivial

mutual

/-- A node whose attributes can be written is converted. -/
theorem exists_ofNode : ∀ n : Node, n.IsSound → ∀ notes : Notes, ∃ hs notes',
    (ofNode n).run notes = .ok (hs, notes') ∧ hs.filterMap module? = n.module?.toList
  | .leaf l, _, notes => by
    cases l with
    | noteCall label => exact ⟨_, _, rfl, rfl⟩
    | _ => exact ⟨_, _, rfl, rfl⟩
  | .group g children, h, notes => by
    obtain ⟨hg, hchildren⟩ := isSound_group_iff.1 h
    obtain ⟨inner, notes', hinner, -⟩ := exists_ofNodes children hchildren notes
    obtain ⟨hs, notes'', hs', hmodule⟩ := exists_ofGroup hg children inner notes'
    exact ⟨hs, notes'', by rw [ofNode, StateT.run_bind, hinner]; exact hs', hmodule⟩

/-- Nodes whose attributes can be written are converted, and the imports and exports are kept. -/
theorem exists_ofNodes : ∀ xs : List Node, (∀ n ∈ xs, n.IsSound) → ∀ notes : Notes,
    ∃ hs notes', (ofNodes xs).run notes = .ok (hs, notes') ∧
      hs.filterMap module? = xs.filterMap Node.module?
  | [], _, notes => ⟨_, _, rfl, rfl⟩
  | n :: ns, h, notes => by
    rw [List.forall_mem_cons] at h
    obtain ⟨first, notes', hfirst, hmodule⟩ := exists_ofNode n h.1 notes
    obtain ⟨rest, notes'', hrest, hmodules⟩ := exists_ofNodes ns h.2 notes'
    refine ⟨first ++ rest, notes'', ?_, ?_⟩
    · rw [ofNodes, StateT.run_bind, hfirst]
      change (ofNodes ns).run notes' >>= _ = _
      rw [hrest]
      rfl
    · rw [List.filterMap_append, hmodule, hmodules, List.filterMap_cons]
      cases n.module? <;> rfl

end

mutual

/-- A node that is converted has only attributes that can be written. -/
theorem isSound_of_ofNode : ∀ (n : Node) (notes : Notes) (r : List Html × Notes),
    (ofNode n).run notes = .ok r → n.IsSound
  | .leaf l, _, _, _ => .leaf l
  | .group g children, notes, r, h => by
    rw [ofNode, StateT.run_bind] at h
    obtain ⟨⟨inner, notes'⟩, hinner, h⟩ := exists_of_bind_eq_ok h
    exact .group (isSound_of_ofGroup h) (isSound_of_ofNodes children notes _ hinner)

/-- Nodes that are converted have only attributes that can be written. -/
theorem isSound_of_ofNodes : ∀ (xs : List Node) (notes : Notes) (r : List Html × Notes),
    (ofNodes xs).run notes = .ok r → ∀ n ∈ xs, n.IsSound
  | [], _, _, _ => by simp
  | n :: ns, notes, r, h => by
    rw [ofNodes, StateT.run_bind] at h
    obtain ⟨⟨first, notes'⟩, hfirst, h⟩ := exists_of_bind_eq_ok h
    obtain ⟨⟨rest, notes''⟩, hrest, -⟩ := exists_of_bind_eq_ok h
    exact List.forall_mem_cons.2
      ⟨isSound_of_ofNode n notes _ hfirst, isSound_of_ofNodes ns notes' _ hrest⟩

end

/-- What documents are shown as has the same imports and exports. -/
def SameModules (hs hs' : List Html) : Prop := hs.filterMap module? = hs'.filterMap module?

/-- Nodes of the same use are converted to the same imports and exports, or neither of them is
converted. -/
theorem sameModules_ofDocument {xs ys : List Node} (h : SameUse xs ys) :
    SameOutcome SameModules (ofDocument xs) (ofDocument ys) := by
  by_cases hxs : ∀ n ∈ xs, n.IsSound
  · obtain ⟨hs, notes, hrun, hmodules⟩ := exists_ofNodes xs hxs ⟨[], []⟩
    obtain ⟨hs', notes', hrun', hmodules'⟩ := exists_ofNodes ys (h.sound.1 hxs) ⟨[], []⟩
    rw [ofDocument, ofDocument, hrun, hrun']
    refine .ok ?_
    rw [SameModules, List.filterMap_append, List.filterMap_append, filterMap_module?_separate,
      filterMap_module?_separate, filterMap_module?_noteSection, filterMap_module?_noteSection,
      hmodules, hmodules', h.modules]
  · have herror {zs : List Node} (hzs : ¬ ∀ n ∈ zs, n.IsSound) : ∃ e, ofDocument zs = .error e := by
      rw [ofDocument]
      cases hrun : (ofNodes zs).run ⟨[], []⟩ with
      | error e => exact ⟨e, rfl⟩
      | ok r => exact absurd (isSound_of_ofNodes zs _ r hrun) hzs
    obtain ⟨e, he⟩ := herror hxs
    obtain ⟨e', he'⟩ := herror fun hys => hxs (h.sound.2 hys)
    rw [he, he']
    exact .error e e'

end Html

/-! ### Layouts -/

/-- The imports and exports of a document with the layout taken out, of one of its blocks. -/
def Layout.ofModule (m : List Script.Node × Content) : Layout.Action (List Script.Node) := do
  return (← m.1.mapM (Layout.ofItem m.2)).flatten

theorem ofItems_eq (hs : List Html) : Layout.ofItems hs =
    (hs.filterMap Html.module?).mapM Layout.ofModule >>= fun items => pure items.flatten := by
  unfold Layout.ofItems
  induction hs with
  | nil => rfl
  | cons h hs ih =>
    cases h with
    | module items source =>
      simp only [List.mapM_cons, List.filterMap_cons, Html.module?, Layout.ofModule, bind_assoc,
        pure_bind, List.flatten_cons] at ih ⊢
      refine bind_congr fun made => ?_
      have hrest := congrArg (· >>= fun rest => pure (made.flatten ++ rest)) ih
      simpa only [bind_assoc, pure_bind] using hrest
    | _ =>
      simp only [List.mapM_cons, List.filterMap_cons, Html.module?, bind_assoc, pure_bind,
        List.flatten_cons, List.nil_append]
      exact ih

theorem ofItems_congr {hs hs' : List Html} (h : Html.SameModules hs hs') :
    Layout.ofItems hs = Layout.ofItems hs' := by
  rw [ofItems_eq, ofItems_eq, h]

/-! ### Modules -/

/-- What a document is shown as. -/
def shownAs (text : Text) : Except Failure (List Html) := do
  Html.ofDocument (← parseDocument text).1

theorem documentModule_eq (text : Text) : documentModule text = shownAs text >>= fun hs =>
    ((Layout.ofItems hs).run none).map fun found => moduleItems found.1 hs found.2.isSome := by
  rw [documentModule, shownAs, bind_assoc]
  cases parseDocument text with
  | error e => rfl
  | ok r =>
    change (Html.ofDocument r.1 >>= _) = Html.ofDocument r.1 >>= _
    cases Html.ofDocument r.1 with
    | error e => rfl
    | ok hs =>
      change ((Layout.ofItems hs).run none >>= _) = ((Layout.ofItems hs).run none).map _
      cases (Layout.ofItems hs).run none <;> rfl

/-- Documents that are shown with the same imports and exports, or cannot be shown. -/
def ConvertedAlike (t t' : Text) : Prop := SameOutcome Html.SameModules (shownAs t) (shownAs t')

/-- The items of modules of documents with the same imports and exports. -/
def SameOwnItems (xs ys : List Script.Node) : Prop :=
  ∃ items hs hs' hasLayout, xs = moduleItems items hs hasLayout ∧
    ys = moduleItems items hs' hasLayout

namespace ConvertedAlike

variable {t t' t'' : Text}

theorem refl (t : Text) : ConvertedAlike t t :=
  SameOutcome.refl (r := Html.SameModules) (fun _ => rfl) (shownAs t)

theorem trans (h : ConvertedAlike t t') (h' : ConvertedAlike t' t'') : ConvertedAlike t t'' :=
  SameOutcome.trans Eq.trans h h'

theorem symm (h : ConvertedAlike t t') : ConvertedAlike t' t := SameOutcome.symm Eq.symm h

theorem documentModule (h : ConvertedAlike t t') :
    SameOutcome SameOwnItems (documentModule t) (documentModule t') := by
  rw [documentModule_eq, documentModule_eq]
  refine SameOutcome.bind h fun {hs hs'} hmodules => ?_
  rw [ofItems_congr hmodules]
  cases (Layout.ofItems hs').run none with
  | error e => exact .error e e
  | ok r => exact .ok ⟨_, _, _, _, rfl, rfl⟩

theorem toBool_moduleText (h : ConvertedAlike t t') :
    (moduleText t).toBool = (moduleText t').toBool := by
  have hmodule (t : Text) : (moduleText t).toBool = (Markup.documentModule t).toBool := by
    rw [moduleText]
    cases Markup.documentModule t <;> rfl
  rw [hmodule, hmodule, h.documentModule.toBool_eq]

end ConvertedAlike

end DocPreview.Markup
