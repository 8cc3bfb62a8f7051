import DocPreview.Proofs.Script.Lowering
import DocPreview.Proofs.Script.Operand
import DocPreview.Proofs.Text.Except
import DocPreview.Script.Reader.Grammar

/-!
# Items of modules

The items of a module are told apart by what they do to the body of a function: they return, import,
export, declare a function with a name, or do none of this.

## Main definitions

* `ItemKind`, `Node.kind`: the kinds of items.
* `Reader.Gives`: readers whose results have a property.
* `Reader.ExportsPlain`: what the export of a declaration declares.

## Main results

* `kind_calls`: writing elements as calls keeps the kind of an item.
* `Reader.gives_items`: what is read as items.
* `Reader.kind_of_statement_const`: a declaration of constants is no item of another kind.
-/

namespace DocPreview.Script

/-! ### Kinds -/

/-- What an item of a module does. -/
inductive ItemKind where
  | returning
  /-- An import, with its source if this is a string. -/
  | importing (source : Option String)
  | exporting
  /-- The declaration of a function, with its name. -/
  | function (name : Option String)
  | other
  deriving Repr, DecidableEq

/-- An item that does not return, import or export. -/
def ItemKind.IsPlain : ItemKind → Prop
  | function _ | other => True
  | returning | importing _ | exporting => False

/-- The kind of an item. -/
def Node.kind : Node → ItemKind
  | .returnStmt _ _ => .returning
  | .importDecl _ _ (.string _ source _) => .importing (some source)
  | .importDecl _ _ _ => .importing none
  | .exportDecl _ _ | .exportNamed _ _ _ | .exportAll _ _ | .exportDefaultDecl _ _
  | .exportDefaultExpr _ _ => .exporting
  | .function _ (some (.ident _ name)) _ _ _ _ => .function (some name)
  | .function _ _ _ _ _ _ => .function none
  | _ => .other

/-- A function with a name. -/
theorem exists_function_of_kind {n : Node} {name : String} (h : n.kind = .function (some name)) :
    ∃ span s params body isAsync isGenerator,
      n = .function span (some (.ident s name)) params body isAsync isGenerator := by
  cases n with
  | function span o params body isAsync isGenerator =>
    cases o with
    | none => cases h
    | some k =>
      cases k with
      | ident s name' =>
        cases h
        exact ⟨_, _, _, _, _, _, rfl⟩
      | _ => cases h
  | importDecl span specifiers source => cases source <;> cases h
  | _ => cases h

theorem exists_returnStmt_of_kind {n : Node} (h : n.kind = .returning) :
    ∃ span arg, n = .returnStmt span arg := by
  unfold Node.kind at h
  split at h
  · exact ⟨_, _, rfl⟩
  all_goals cases h

/-- Writing the elements in an item as calls keeps the kind of the item. -/
theorem kind_calls (n : Node) : n.calls.kind = n.kind := by
  cases n with
  | importDecl span specifiers source =>
    cases source with
    | paren s e => cases e <;> rfl
    | _ => rfl
  | function span name params body isAsync isGenerator =>
    cases name with
    | none => rfl
    | some name =>
      cases name with
      | paren s e => cases e <;> rfl
      | _ => rfl
  | paren span e => cases e <;> rfl
  | _ => rfl

namespace Reader

variable {α β : Type} {P : α → Prop} {Q : β → Prop} {rules : Rules} {scope : Scope}
  {s s' s'' : ReaderState} {n : Node} {ns ms : List Node}

/-! ### Results -/

/-- A reader whose results have a property. -/
def Gives (P : α → Prop) (r : Reader α) : Prop :=
  ∀ scope s a s', r scope s = .ok (a, s') → P a

theorem gives_pure {a : α} (h : P a) : Gives P (pure a) := by
  rintro _ _ _ _ ⟨⟩
  exact h

theorem Gives.bind {x : Reader β} {f : β → Reader α} (hx : Gives Q x)
    (hf : ∀ b, Q b → Gives P (f b)) : Gives P (x >>= f) := by
  intro scope s a s' h
  obtain ⟨⟨b, t⟩, hrun, hrest⟩ :=
    exists_of_bind_eq_ok (f := fun p : β × ReaderState => f p.1 scope p.2) h
  exact hf b (hx scope s b t hrun) scope t a s' hrest

theorem gives_bind {x : Reader β} {f : β → Reader α} (hf : ∀ b, Gives P (f b)) :
    Gives P (x >>= f) :=
  Gives.bind (Q := fun _ => True) (fun _ _ _ _ _ => trivial) fun b _ => hf b

theorem Gives.within {r : Reader α} (h : Gives P r) (change : Scope → Scope) :
    Gives P (within change r) := fun scope s a s' hrun => h (change scope) s a s' hrun

theorem Gives.mono {P' : α → Prop} {r : Reader α} (h : Gives P r) (hP : ∀ a, P a → P' a) :
    Gives P' r := fun scope s a s' hrun => hP a (h scope s a s' hrun)

theorem gives_failAt (span : Span) (p : Problem) : Gives P (failAt span p : Reader α) :=
  fun _ _ _ _ h => nomatch h

theorem gives_fail (p : Problem) : Gives P (fail p : Reader α) :=
  gives_bind fun _ => gives_failAt _ _

theorem gives_unexpected (wanted : String) : Gives P (unexpected wanted : Reader α) :=
  gives_bind fun _ => gives_fail _

theorem Gives.some {r : Reader α} (h : Gives P r) : Gives (∀ a ∈ ·, P a) (do return some (← r)) :=
  h.bind fun _ ha => gives_pure fun _ hb => Option.some.inj hb ▸ ha

theorem gives_many {item : Reader (Option α)} (h : Gives (∀ a ∈ ·, P a) item) (n : Nat) :
    Gives (∀ a ∈ ·, P a) (many item n) := by
  induction n with
  | zero => exact gives_pure (by simp)
  | succ n ih =>
    refine h.bind fun o ho => ?_
    cases o with
    | none => exact gives_pure (by simp)
    | some a => exact ih.bind fun as has => gives_pure (List.forall_mem_cons.2 ⟨ho a rfl, has⟩)

/-! ### What exports declare -/

theorem gives_functionFrom (lo : Nat) (isAsync needsName : Bool) :
    Gives (·.kind.IsPlain) (functionFrom rules lo isAsync needsName) := by
  have hrest (name : Option Node) (isGenerator : Bool) :
      Gives (·.kind.IsPlain) (functionRest rules lo name isAsync isGenerator) := by
    refine Gives.within (gives_bind fun _ => gives_bind fun _ => gives_bind fun span => ?_) _
    refine gives_pure ?_
    unfold Node.kind
    split <;> trivial
  unfold functionFrom
  refine gives_bind fun _ => gives_bind fun _ => ?_
  dsimp only
  repeat' first
    | exact (hrest _ _).within _
    | refine gives_bind fun _ => ?_
    | split

theorem gives_classFrom (baseClass : Reader Node) (needsName : Bool) :
    Gives (·.kind.IsPlain) (classFrom rules baseClass needsName) := by
  refine Gives.within (gives_bind fun _ => gives_bind fun _ => ?_) _
  dsimp only
  repeat' first
    | exact gives_pure trivial
    | refine gives_bind fun _ => ?_
    | split

theorem gives_varStatement (kind : VarKind) :
    Gives (·.kind = .other) (varStatement rules kind) := by
  have hvar : Gives (·.kind = .other) (varFrom rules kind false) := by
    unfold varFrom
    repeat' first
      | exact gives_pure rfl
      | refine gives_bind fun _ => ?_
  have hextend (hi : Nat) {d : Node} (hd : d.kind = .other) : (extendVar hi d).kind = .other := by
    unfold extendVar
    split
    · rfl
    · exact hd
  unfold varStatement
  refine hvar.bind fun d hd => gives_bind fun isEnd => ?_
  dsimp only
  repeat' first
    | exact gives_pure (hextend _ hd)
    | refine gives_bind fun _ => ?_
    | split

theorem gives_declaration? : Gives (∀ n ∈ ·, n.kind.IsPlain) (declaration? rules) := by
  unfold declaration?
  refine gives_bind fun lo => gives_bind fun kind? => ?_
  dsimp only
  split
  · exact ((gives_varStatement _).mono fun n hn => hn ▸ trivial).some
  refine gives_bind fun isFunction => ?_
  split
  · exact (gives_functionFrom _ _ _).some
  refine gives_bind fun isClass => ?_
  split
  · exact (gives_classFrom _ _).some
  refine gives_bind fun isAsync => ?_
  split
  · refine gives_bind fun after => ?_
    split
    · exact gives_bind fun _ => (gives_functionFrom _ _ _).some
    · exact gives_pure (by simp)
  · exact gives_pure (by simp)

/-- If an item is the export of a declaration, then what is declared does not return, import or
export. -/
def ExportsPlain (n : Node) : Prop := ∀ span d, n = .exportDecl span d → d.kind.IsPlain

theorem gives_exportDefault (lo : Nat) : Gives ExportsPlain (exportDefault rules lo) := by
  unfold exportDefault
  repeat' first
    | refine gives_bind fun _ => ?_
    | exact gives_pure nofun
    | split

theorem gives_exportDeclaration : Gives ExportsPlain (exportDeclaration rules) := by
  unfold exportDeclaration
  refine gives_bind fun _ => gives_bind fun _ => gives_bind fun _ => gives_bind fun isDefault => ?_
  dsimp only
  split
  · exact gives_exportDefault _
  refine gives_bind fun isStar => ?_
  split
  · refine gives_bind fun _ => gives_bind fun _ => gives_bind fun hasName => ?_
    repeat' first
      | refine gives_bind fun _ => ?_
      | exact gives_pure nofun
      | split
  refine gives_bind fun isList => ?_
  split
  · refine gives_bind fun _ => gives_bind fun isFrom => ?_
    repeat' first
      | refine gives_bind fun _ => ?_
      | exact gives_pure nofun
      | split
  refine (gives_declaration?.within _).bind fun d? hd => ?_
  cases d? with
  | none => exact gives_unexpected _
  | some d =>
    refine gives_bind fun span => gives_pure fun span' d' heq => ?_
    cases heq
    exact hd d rfl

theorem gives_importDeclaration : Gives ExportsPlain importDeclaration := by
  unfold importDeclaration
  repeat' first
    | refine gives_bind fun _ => ?_
    | exact gives_pure nofun
    | split

theorem gives_blockFrom : Gives ExportsPlain (blockFrom rules) :=
  gives_bind fun _ => gives_bind fun _ => gives_bind fun _ => gives_bind fun _ => gives_pure nofun

theorem gives_expressionStatement : Gives ExportsPlain (expressionStatement rules) := by
  have hlabeled : Gives ExportsPlain (labeledFrom rules) := by
    unfold labeledFrom
    repeat' first
      | refine gives_bind fun _ => ?_
      | exact gives_pure nofun
      | split
  unfold expressionStatement
  refine gives_bind fun l => gives_bind fun after => ?_
  repeat' first
    | exact gives_pure nofun
    | exact hlabeled
    | refine gives_bind fun _ => ?_
    | split

theorem gives_forRest (lo : Nat) (start : Option Node) :
    Gives ExportsPlain (forRest rules lo start) := by
  unfold forRest
  repeat' first
    | refine gives_bind fun _ => ?_
    | exact gives_pure nofun
    | split

theorem gives_forEach (lo : Nat) (isAwait : Bool) (target : Node) :
    Gives ExportsPlain (forEach rules lo isAwait target) := by
  unfold forEach
  repeat' first
    | refine gives_bind fun _ => ?_
    | exact gives_pure nofun
    | split

theorem gives_forFrom : Gives ExportsPlain (forFrom rules) := by
  unfold forFrom
  refine gives_bind fun lo => gives_bind fun _ => gives_bind fun isAwait => gives_bind fun _ =>
    gives_bind fun isEmpty => ?_
  have hrest (start : Option Node) : Gives ExportsPlain (inBrackets (forRest rules lo start)) :=
    (gives_forRest lo start).within _
  have heach (target : Node) : Gives ExportsPlain (inBrackets (forEach rules lo isAwait target)) :=
    (gives_forEach lo isAwait target).within _
  dsimp only
  split
  · exact hrest none
  refine gives_bind fun kind? => ?_
  split
  · refine gives_bind fun d => gives_bind fun isOf => gives_bind fun isIn => ?_
    split
    exacts [heach d, hrest (some d)]
  · refine gives_bind fun e => gives_bind fun isOf => gives_bind fun isIn => ?_
    split
    · split
      · exact gives_bind fun depth => gives_bind fun target => heach target
      · exact gives_bind fun _ => heach e
    · exact hrest (some e)

theorem gives_switchFrom : Gives ExportsPlain (switchFrom rules) := by
  unfold switchFrom
  refine gives_bind fun _ => gives_bind fun _ => gives_bind fun _ => gives_bind fun _ =>
    gives_bind fun _ => gives_bind fun _ => ?_
  dsimp only
  split
  · exact gives_bind fun _ => gives_bind fun _ => gives_pure nofun
  · exact gives_bind fun _ => gives_pure nofun

theorem gives_tryFrom : Gives ExportsPlain (tryFrom rules) := by
  have hrest (lo : Nat) (body : Node) (handler : Option Node) : Gives ExportsPlain (do
      let finalizer ← do
        if ← eatWord "finally" then
          pure (some (← blockFrom rules))
        else
          pure none
      if handler.isNone && finalizer.isNone then
        fail (.expected "catch" (shown (← cur).token))
      return .tryStmt (← spanFrom lo) body handler finalizer) := by
    refine gives_bind fun isFinally => ?_
    dsimp only
    repeat' first
      | refine gives_bind fun _ => ?_
      | exact gives_pure nofun
      | split
  unfold tryFrom
  refine gives_bind fun lo => gives_bind fun _ => gives_bind fun body => gives_bind fun _ =>
    gives_bind fun isCatch => ?_
  dsimp only
  split
  · refine gives_bind fun isOpen => ?_
    split
    · exact gives_bind fun p => gives_bind fun _ => gives_bind fun param => gives_bind fun b =>
        gives_bind fun span => gives_bind fun handler => hrest lo body handler
    · exact gives_bind fun param => gives_bind fun b => gives_bind fun span =>
        gives_bind fun handler => hrest lo body handler
  · exact gives_bind fun handler => hrest lo body handler

theorem gives_keywordStatement? (word : String) (lo : Nat) :
    Gives (∀ n ∈ ·, ExportsPlain n) (keywordStatement? rules word lo) := by
  have hsome {n : Node} (hn : ExportsPlain n) : Gives (∀ n ∈ ·, ExportsPlain n) (pure (some n)) :=
    gives_pure fun m hm => Option.some.inj hm ▸ hn
  unfold keywordStatement?
  split
  case h_1 =>
    refine gives_bind fun _ => gives_bind fun _ => gives_bind fun _ => gives_bind fun isElse => ?_
    dsimp only
    split
    · refine gives_bind fun _ => gives_bind fun _ => gives_bind fun _ => hsome ?_
      exact nofun
    · refine gives_bind fun _ => gives_bind fun _ => hsome ?_
      exact nofun
  case h_2 => exact gives_forFrom.some
  case h_5 => exact gives_switchFrom.some
  case h_6 => exact gives_tryFrom.some
  case h_7 | h_8 | h_9 | h_10 =>
    refine Gives.some ?_
    first
      | unfold returnFrom
      | unfold throwFrom
      | unfold breakFrom
      | unfold continueFrom
    repeat' first
      | refine gives_bind fun _ => ?_
      | exact gives_pure nofun
      | split
  case h_3 | h_4 | h_11 | h_12 =>
    repeat' first
      | refine gives_bind fun _ => ?_
      | refine hsome ?_
    exact nofun
  case h_13 => exact gives_pure (by simp)

theorem gives_statement : Gives ExportsPlain (statement rules) := by
  have hplain {n : Node} (hn : n.kind.IsPlain) : ExportsPlain n := by
    rintro span d rfl
    exact hn.elim
  unfold statement
  refine gives_bind fun l => gives_bind fun scope => ?_
  dsimp only
  split
  · exact gives_blockFrom
  · exact gives_bind fun _ => gives_pure nofun
  · refine gives_bind fun isImport => ?_
    split
    · repeat' first
        | exact gives_failAt _ _
        | exact gives_importDeclaration
        | exact gives_exportDeclaration
        | refine gives_bind fun _ => ?_
        | split
    · refine Gives.within ?_ _
      refine (gives_keywordStatement? _ _).bind fun k? hk => ?_
      cases k? with
      | some k => exact gives_pure (hk k rfl)
      | none =>
        refine gives_declaration?.bind fun d? hd => ?_
        cases d? with
        | some d => exact gives_pure (hplain (hd d rfl))
        | none => exact gives_expressionStatement
  · exact gives_expressionStatement.within _

theorem gives_rulesWithin (n : Nat) : Gives ExportsPlain (rulesWithin n .statement) := by
  cases n with
  | zero => exact gives_fail _
  | succ n => exact gives_statement

theorem gives_items {P : Node → Prop} (h : Gives P (rules .statement)) :
    Gives (∀ n ∈ ·, P n) (items rules) := by
  refine gives_bind fun n => gives_many ?_ n
  refine gives_bind fun l => ?_
  split
  · exact gives_pure (by simp)
  · exact h.some

/-! ### A declaration of constants -/

/-- The word `const` starts a declaration of variables. -/
theorem kind_of_statement_const (hs : s.cur.token = .word "const" false)
    (h : statement rules scope s = .ok (n, s')) : n.kind = .other := by
  have hoperand : StartsOperand s.cur.token := by
    rw [hs]
    simp [StartsOperand, operatorWords]
  have hkeyword (scope : Scope) (lo : Nat) : keywordStatement? rules "const" lo scope s =
      .ok (none, s) := rfl
  let inItem : Scope := { scope with isTopLevel := false }
  cases hvar : varStatement rules .const inItem s with
  | error e =>
    have hdeclaration : declaration? rules inItem s = .error e := by
      simp [declaration?, varKind?, hs, hvar]
    simp [statement, run_needToken hoperand, hs, startsImport, hkeyword, inItem, hdeclaration] at h
  | ok p =>
    obtain ⟨m, t⟩ := p
    have hdeclaration : declaration? rules inItem s = .ok (some m, t) := by
      simp [declaration?, varKind?, hs, hvar]
    simp [statement, run_needToken hoperand, hs, startsImport, hkeyword, inItem, hdeclaration] at h
    exact h.1 ▸ gives_varStatement .const inItem s m t hvar

end Reader

end DocPreview.Script
