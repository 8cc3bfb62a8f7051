import DocPreview.Proofs.Script.Lexeme
import DocPreview.Proofs.Text.Line
import DocPreview.Script.Lowering

/-!
# Elements as classic calls

Without a comment that asks for something else, each element becomes a call of
`React.createElement`, each fragment one with the component `React.Fragment`, and nothing else
changes: no item is added to a module, and no element is left in it. A comment asks for something
else only if it is a block comment before an item, and one of its lines starts with `@jsx`, after
white space and an asterisk with white space behind it.

## Main definitions

* `Node.calls`: a tree with its elements as classic calls.
* `Node.HasNoElement`: trees without elements.
* `Comment.HasSetting`: comments that can ask for another style.

## Main results

* `lowerElements_of_classic`: the module of classic calls.
* `hasNoElement_calls`: no element is left.
* `exists_setting_of_ofModule_ne`: what asks for another style.
-/

namespace DocPreview.Script

open Text

/-! ### Walks without effects -/

section Walk

variable {m : Type → Type} [Monad m]

/-- An action for each node that does nothing. -/
abbrev skipNode (_ : Node) : m Unit := pure ()

/-- A replacement of nodes without effects. -/
abbrev pureReplace (f : Node → Node → Node) (before after : Node) : m Node := pure (f before after)

/-- A walk without effects gives the same in each monad. -/
theorem walk_pureReplace [LawfulMonad m] (f : Node → Node → Node) :
    (∀ n : Node, n.walkM (m := m) skipNode (pureReplace f) =
      pure (Id.run (n.walkM skipNode (pureReplace f)))) ∧
    (∀ ns, walkListOptionM (m := m) skipNode (pureReplace f) ns =
      pure (Id.run (walkListOptionM skipNode (pureReplace f) ns))) ∧
    (∀ ns, walkAllM (m := m) skipNode (pureReplace f) ns =
      pure (Id.run (walkAllM skipNode (pureReplace f) ns))) ∧
    (∀ n, walkOptionM (m := m) skipNode (pureReplace f) n =
      pure (Id.run (walkOptionM skipNode (pureReplace f) n))) := by
  apply Node.walkM.mutual_induct
  all_goals
    intros
    simp only [Node.walkM, walkAllM, walkOptionM, walkListOptionM, pure_bind, *]
    try rfl

theorem replaceAllM_pure [LawfulMonad m] (f : Node → Node → Node) (ns : List Node) :
    replaceAllM (m := m) (pureReplace f) ns = pure (replaceAll f ns) :=
  (walk_pureReplace f).2.2.1 ns

theorem replaceAll_eq_map (f : Node → Node → Node) (ns : List Node) :
    replaceAll f ns = ns.map (Node.replace f) := by
  induction ns with
  | nil => rfl
  | cons n ns ih =>
    rw [List.map_cons, ← ih]
    rfl

end Walk

/-! ### Classic calls -/

/-- The function that makes an element. -/
def createElement : Node :=
  .member Span.none (.ident Span.none "React") (.ident Span.none "createElement") false

/-- The component of a fragment. -/
def fragmentComponent : Node :=
  .member Span.none (.ident Span.none "React") (.ident Span.none "Fragment") false

/-- A node with its parts as classic calls, as a classic call itself if it is an element. -/
def callNode (before after : Node) : Node :=
  match before, after with
  | _, .element _ name attributes children _ =>
    .call Span.none createElement
      (elementTarget name :: classicAttributes attributes :: childArguments children) false
  | _, .fragment _ children =>
    .call Span.none createElement
      (fragmentComponent :: .literal Span.none .null :: childArguments children) false
  | .paren _ e, .paren s e' => if e.isElement then e' else .paren s e'
  | _, n => n

/-- A tree with its elements as classic calls. -/
def Node.calls (n : Node) : Node := n.replace callNode

theorem pathExpr_factory : pathExpr ElementStyle.classic.factory = createElement := by
  have hparts : splitString '.' ElementStyle.classic.factory = ["React", "createElement"] := by
    decide +kernel
  rw [pathExpr, hparts]
  rfl

theorem pathExpr_fragment : pathExpr ElementStyle.classic.fragment = fragmentComponent := by
  have hparts : splitString '.' ElementStyle.classic.fragment = ["React", "Fragment"] := by
    decide +kernel
  rw [pathExpr, hparts]
  rfl

/-- In the classic style a node is replaced without a note on the runtime. -/
theorem lowerNode_classic : lowerNode ElementStyle.classic = pureReplace callNode := by
  funext before after
  have hclassic : (!ElementStyle.classic.isAutomatic) = true := rfl
  unfold lowerNode
  split
  · rw [lowerElement, if_pos hclassic, pathExpr_factory]
    rfl
  · rw [lowerFragment, if_pos hclassic, pathExpr_factory, pathExpr_fragment]
    rfl
  · rfl
  · rename_i helement hfragment hparen
    rw [pureReplace, callNode.eq_4 _ _ helement hfragment hparen]

/-- In the classic style the items of a module are the same with classic calls for their
elements. -/
theorem lowerElements_of_classic {m : Module} (h : ElementStyle.ofModule m = .classic) :
    m.lowerElements = { m with body := m.body.map Node.calls } := by
  have hbody : (replaceAllM (lowerNode .classic) m.body).run ⟨false, false, false, false⟩ =
      (m.body.map Node.calls, ⟨false, false, false, false⟩) := by
    rw [lowerNode_classic, replaceAllM_pure, replaceAll_eq_map]
    rfl
  have hcut := List.prefix_iff_eq_append.1
    (List.takeWhile_prefix (p := Node.isDirective) (l := m.body.map Node.calls))
  have himports : runtimeImports .classic ⟨false, false, false, false⟩ = [] := rfl
  simp only [Module.lowerElements, h, hbody, himports, List.append_nil, hcut]

/-! ### What is left -/

/-- An action that stops at elements. -/
def stopAtElement : Node → Option Unit
  | .element _ _ _ _ _ | .fragment _ _ => none
  | _ => some ()

/-- A replacement of nodes that changes nothing. -/
abbrev keepNode (_ after : Node) : Option Node := some after

/-- A tree without elements: a walk that stops at elements gets through it. -/
def Node.HasNoElement (n : Node) : Prop := n.walkM stopAtElement keepNode = some n

section HasNoElement

variable {s : Span} {n : Node} {ns : List Node} {o : Option Node}

theorem walkAllM_eq_some_iff :
    walkAllM stopAtElement keepNode ns = some ns ↔ ∀ n ∈ ns, n.HasNoElement := by
  induction ns with
  | nil => exact iff_of_true rfl (by simp)
  | cons n ns ih =>
    have hwalk : walkAllM stopAtElement keepNode (n :: ns) =
        (n.walkM stopAtElement keepNode).bind fun n' =>
          (walkAllM stopAtElement keepNode ns).bind fun ns' => some (n' :: ns') := rfl
    rw [List.forall_mem_cons, ← ih, hwalk, Node.HasNoElement]
    simp [Option.bind_eq_some_iff]

theorem walkOptionM_eq_some_iff :
    walkOptionM stopAtElement keepNode o = some o ↔ ∀ n ∈ o, n.HasNoElement := by
  cases o with
  | none => exact iff_of_true rfl (by simp)
  | some n =>
    have hwalk : walkOptionM stopAtElement keepNode (some n) =
        (n.walkM stopAtElement keepNode).bind fun n' => some (some n') := rfl
    rw [hwalk]
    simp [Option.bind_eq_some_iff, Node.HasNoElement]

theorem hasNoElement_call {callee : Node} {isOptional : Bool} :
    (Node.call s callee ns isOptional).HasNoElement ↔
      callee.HasNoElement ∧ ∀ n ∈ ns, n.HasNoElement := by
  have hwalk : (Node.call s callee ns isOptional).walkM stopAtElement keepNode =
      (callee.walkM stopAtElement keepNode).bind fun callee' =>
        (walkAllM stopAtElement keepNode ns).bind fun ns' =>
          some (.call s callee' ns' isOptional) := rfl
  rw [← walkAllM_eq_some_iff, Node.HasNoElement, hwalk]
  simp [Option.bind_eq_some_iff, Node.HasNoElement]

theorem hasNoElement_object : (Node.object s ns).HasNoElement ↔ ∀ n ∈ ns, n.HasNoElement := by
  have hwalk : (Node.object s ns).walkM stopAtElement keepNode =
      (walkAllM stopAtElement keepNode ns).bind fun ns' => some (.object s ns') := rfl
  rw [← walkAllM_eq_some_iff, Node.HasNoElement, hwalk]
  simp [Option.bind_eq_some_iff]

theorem hasNoElement_keyValue {key value : Node} :
    (Node.keyValue s key value).HasNoElement ↔ key.HasNoElement ∧ value.HasNoElement := by
  have hwalk : (Node.keyValue s key value).walkM stopAtElement keepNode =
      (key.walkM stopAtElement keepNode).bind fun key' =>
        (value.walkM stopAtElement keepNode).bind fun value' =>
          some (.keyValue s key' value') := rfl
  rw [Node.HasNoElement, hwalk]
  simp [Option.bind_eq_some_iff, Node.HasNoElement]

theorem hasNoElement_spread : (Node.spread s n).HasNoElement ↔ n.HasNoElement := by
  have hwalk : (Node.spread s n).walkM stopAtElement keepNode =
      (n.walkM stopAtElement keepNode).bind fun n' => some (.spread s n') := rfl
  rw [Node.HasNoElement, hwalk]
  simp [Option.bind_eq_some_iff, Node.HasNoElement]

theorem hasNoElement_paren : (Node.paren s n).HasNoElement ↔ n.HasNoElement := by
  have hwalk : (Node.paren s n).walkM stopAtElement keepNode =
      (n.walkM stopAtElement keepNode).bind fun n' => some (.paren s n') := rfl
  rw [Node.HasNoElement, hwalk]
  simp [Option.bind_eq_some_iff, Node.HasNoElement]

theorem hasNoElement_attr :
    (Node.attr s n o).HasNoElement ↔ n.HasNoElement ∧ ∀ v ∈ o, v.HasNoElement := by
  have hwalk : (Node.attr s n o).walkM stopAtElement keepNode =
      (n.walkM stopAtElement keepNode).bind fun n' =>
        (walkOptionM stopAtElement keepNode o).bind fun o' => some (.attr s n' o') := rfl
  rw [← walkOptionM_eq_some_iff, Node.HasNoElement, hwalk]
  simp [Option.bind_eq_some_iff, Node.HasNoElement]

theorem hasNoElement_container : (Node.container s o).HasNoElement ↔ ∀ e ∈ o, e.HasNoElement := by
  have hwalk : (Node.container s o).walkM stopAtElement keepNode =
      (walkOptionM stopAtElement keepNode o).bind fun o' => some (.container s o') := rfl
  rw [← walkOptionM_eq_some_iff, Node.HasNoElement, hwalk]
  simp [Option.bind_eq_some_iff]

theorem hasNoElement_elementTarget (h : n.HasNoElement) : (elementTarget n).HasNoElement := by
  unfold elementTarget
  repeat' split
  · rfl
  · rfl
  · exact h

theorem hasNoElement_attributeKey (h : n.HasNoElement) : (attributeKey n).HasNoElement := by
  unfold attributeKey
  repeat' split
  · rfl
  · rfl
  · rfl
  · exact h

theorem hasNoElement_attributeValue (h : ∀ n ∈ o, n.HasNoElement) :
    (attributeValue o).HasNoElement := by
  unfold attributeValue
  split
  · rfl
  · rfl
  · exact hasNoElement_container.1 (h _ rfl) _ rfl
  · exact h _ rfl

theorem hasNoElement_attributeMembers (h : ∀ n ∈ ns, n.HasNoElement) :
    ∀ n ∈ attributeMembers ns, n.HasNoElement := by
  intro n hn
  obtain ⟨a, ha, hn⟩ := List.mem_flatMap.1 hn
  have ha := h a ha
  split at hn
  · obtain rfl := List.mem_singleton.1 hn
    obtain ⟨hname, hvalue⟩ := hasNoElement_attr.1 ha
    exact hasNoElement_keyValue.2
      ⟨hasNoElement_attributeKey hname, hasNoElement_attributeValue hvalue⟩
  · exact hasNoElement_object.1 (hasNoElement_spread.1 ha) n hn
  · obtain rfl := List.mem_singleton.1 hn
    exact ha

theorem hasNoElement_classicAttributes (h : ∀ n ∈ ns, n.HasNoElement) :
    (classicAttributes ns).HasNoElement := by
  unfold classicAttributes
  split
  · rfl
  · exact hasNoElement_spread.1 (h _ List.mem_cons_self)
  · exact hasNoElement_object.2 (hasNoElement_attributeMembers h)

theorem hasNoElement_childArguments (h : ∀ n ∈ ns, n.HasNoElement) :
    ∀ n ∈ childArguments ns, n.HasNoElement := by
  intro n hn
  obtain ⟨a, ha, hn⟩ := List.mem_filterMap.1 hn
  have ha := h a ha
  split at hn
  · split at hn
    · cases hn
    · cases hn
      rfl
  · cases hn
  · cases hn
    exact hasNoElement_container.1 ha _ rfl
  · cases hn
    exact ha

end HasNoElement

/-- Classic calls leave no element, by the recursion of the walk. -/
theorem hasNoElement_walks :
    (∀ n : Node, (Id.run (n.walkM skipNode (pureReplace callNode))).HasNoElement) ∧
    (∀ ns, walkListOptionM stopAtElement keepNode
      (Id.run (walkListOptionM skipNode (pureReplace callNode) ns)) =
        some (Id.run (walkListOptionM skipNode (pureReplace callNode) ns))) ∧
    (∀ ns, walkAllM stopAtElement keepNode
      (Id.run (walkAllM skipNode (pureReplace callNode) ns)) =
        some (Id.run (walkAllM skipNode (pureReplace callNode) ns))) ∧
    (∀ n, walkOptionM stopAtElement keepNode
      (Id.run (walkOptionM skipNode (pureReplace callNode) n)) =
        some (Id.run (walkOptionM skipNode (pureReplace callNode) n))) := by
  apply Node.walkM.mutual_induct
  -- Parentheses, elements and fragments, and the nodes without parts.
  case case25 =>
    intro s e ih
    simp only [Node.walkM, pure_bind, Id.run_bind, Id.run_pure, callNode]
    split
    · exact ih
    · exact hasNoElement_paren.2 ih
  case case28 =>
    intro s name attributes children isClosed ihname ihattributes ihchildren
    have htarget := hasNoElement_elementTarget ihname
    have hprops := hasNoElement_classicAttributes (walkAllM_eq_some_iff.1 ihattributes)
    have hargs := hasNoElement_childArguments (walkAllM_eq_some_iff.1 ihchildren)
    exact hasNoElement_call.2
      ⟨rfl, List.forall_mem_cons.2 ⟨htarget, List.forall_mem_cons.2 ⟨hprops, hargs⟩⟩⟩
  case case29 =>
    intro s children ih
    have hargs := hasNoElement_childArguments (walkAllM_eq_some_iff.1 ih)
    exact hasNoElement_call.2
      ⟨rfl, List.forall_mem_cons.2 ⟨rfl, List.forall_mem_cons.2 ⟨rfl, hargs⟩⟩⟩
  case case63 =>
    intro n
    intros
    have hcall : callNode n n = n :=
      callNode.eq_4 _ _ ‹_› ‹_› fun _ _ _ _ h _ => ‹∀ s e, n = .paren s e → False› _ _ h
    have hstop : stopAtElement n = some () := stopAtElement.eq_3 _ ‹_› ‹_›
    simp only [Node.HasNoElement, Node.walkM, pure_bind, Id.run_pure, hcall, hstop]
    rfl
  all_goals
    intros
    simp only [Node.HasNoElement, Node.walkM, walkAllM, walkOptionM, walkListOptionM, pure_bind,
      Id.run_bind, Id.run_pure, callNode] at *
    try simp only [Option.bind_eq_bind, Option.bind_some, Option.pure_def, *]
    try rfl

theorem hasNoElement_calls (n : Node) : n.calls.HasNoElement := hasNoElement_walks.1 n

/-! ### Comments that ask for another style -/

/-- A text with a line of settings. -/
def HasSettingLine (s : Text) : Prop := ∃ l ∈ lines s, settingWords l ≠ []

instance (s : Text) : Decidable (HasSettingLine s) :=
  inferInstanceAs (Decidable (∃ l ∈ lines s, settingWords l ≠ []))

/-- Comments that can ask for another style: block comments with a line of settings. -/
def Comment.HasSetting (c : Comment) : Prop := c.isLine = false ∧ HasSettingLine c.text.toList

section Style

variable {style : ElementStyle} {comments : List PlacedComment}

/-- A line of settings has the mark of one. -/
theorem infix_of_settingWords_ne_nil {l : Text} (h : settingWords l ≠ []) :
    "@jsx".toList <:+: l := by
  unfold settingWords at h
  extract_lets s s' at h
  split at h
  · rename_i rest hafter
    have hmark : "@jsx".toList <:+: s' := ⟨[], rest, by rw [eq_append_of_after? hafter]; rfl⟩
    have htrim (t : Text) : trim t <:+: t :=
      (trimEnd_prefix_self _).isInfix.trans (trimStart_suffix_self t).isInfix
    have hline : s <:+: l := htrim l
    clear_value s
    have hstar : s' <:+: s := by
      unfold s'
      split
      · exact (htrim _).trans (List.suffix_cons ..).isInfix
      · exact List.infix_rfl
    exact (hmark.trans hstar).trans hline
  · exact absurd rfl h

/-- A text with a line of settings has the mark of one. -/
theorem infix_of_hasSettingLine {s : Text} (h : HasSettingLine s) : "@jsx".toList <:+: s := by
  obtain ⟨l, hl, hwords⟩ := h
  exact (infix_of_settingWords_ne_nil hwords).trans (infix_of_mem_lines hl)

theorem commentWords_eq_nil {c : Comment} (h : ¬ c.HasSetting) {ws : List String}
    (hws : ws ∈ commentWords c) : ws = [] := by
  unfold commentWords at hws
  split at hws
  · cases hws
  · rename_i hline
    obtain ⟨l, hl, rfl⟩ := List.mem_map.1 hws
    by_contra hne
    exact h ⟨Bool.not_eq_true _ ▸ hline, l, hl, hne⟩

theorem foldl_applyWords {wss : List (List String)} (h : ∀ ws ∈ wss, ws = []) :
    wss.foldl ElementStyle.applyWords style = style := by
  induction wss with
  | nil => rfl
  | cons ws wss ih =>
    obtain ⟨rfl, hwss⟩ := List.forall_mem_cons.1 h
    exact ih hwss

/-- Comments without settings before a position ask for nothing. -/
theorem applyAt_of_forall {place : Nat}
    (h : ∀ p ∈ comments, p.isLeading → p.place = place → ¬ p.comment.HasSetting) :
    style.applyAt comments place = (style, false) := by
  have hws : ∀ ws ∈ (((comments.filter fun c => c.isLeading && c.place = place).map fun c =>
      commentWords c.comment).flatten), ws = [] := by
    intro ws hws
    obtain ⟨wss, hwss, hws⟩ := List.mem_flatten.1 hws
    obtain ⟨p, hp, rfl⟩ := List.mem_map.1 hwss
    obtain ⟨hp, hplace⟩ := List.mem_filter.1 hp
    obtain ⟨hleading, hplace⟩ := Bool.and_eq_true_iff.1 hplace
    exact commentWords_eq_nil (h p hp hleading (of_decide_eq_true hplace)) hws
  have hany : (((comments.filter fun c => c.isLeading && c.place = place).map fun c =>
      commentWords c.comment).flatten).any setsStyle = false := by
    rw [List.any_eq_false]
    intro ws hmem
    rw [hws ws hmem]
    exact Bool.false_ne_true
  rw [ElementStyle.applyAt, foldl_applyWords hws, hany]

/-- Comments without settings before all items ask for nothing. -/
theorem applyFirst_of_forall {places : List Nat}
    (h : ∀ p ∈ comments, p.isLeading → p.place ∈ places → ¬ p.comment.HasSetting) :
    style.applyFirst comments places = style := by
  induction places with
  | nil => rfl
  | cons place places ih =>
    have hfirst : style.applyAt comments place = (style, false) :=
      applyAt_of_forall fun p hp hleading hplace =>
        h p hp hleading (hplace ▸ List.mem_cons_self)
    rw [ElementStyle.applyFirst, hfirst]
    exact ih fun p hp hleading hplace => h p hp hleading (List.mem_cons_of_mem _ hplace)

/-- Only a block comment with a line of settings, before the module or one of its items, asks for
another style. -/
theorem exists_setting_of_ofModule_ne {m : Module} (h : ElementStyle.ofModule m ≠ .classic) :
    ∃ p ∈ m.comments, p.isLeading ∧ (p.place = m.span.lo ∨ ∃ n ∈ m.body, p.place = n.span.lo) ∧
      p.comment.HasSetting := by
  by_contra hnone
  push Not at hnone
  refine h ?_
  rw [ElementStyle.ofModule, applyAt_of_forall fun p hp hleading hplace =>
    hnone p hp hleading (Or.inl hplace)]
  refine applyFirst_of_forall fun p hp hleading hplace => hnone p hp hleading (Or.inr ?_)
  obtain ⟨n, hn, heq⟩ := List.mem_map.1 hplace
  exact ⟨n, hn, heq.symm⟩

end Style

end DocPreview.Script
