import DocPreview.Artifact.Build
import DocPreview.Proofs.Artifact.Body
import DocPreview.Proofs.Script.Item
import DocPreview.Proofs.Text.Except

/-!
# A compiled document and its statements

A document is compiled in stages, each of which can fail: its metadata, the text of its module, the
module that is read from this text, and the statements that stand for it in the body of a function.
The statements neither export nor return, and all they import is the element library; what the
module declares is among them.

## Main definitions

* `Compilation`, `compilation?`: the stages of a document that is compiled.
* `declared`: what an item declares.
* `IsEmission`: the modules that are emitted for a document.

## Main results

* `compile_eq`, `compile_eq_ok_iff`: compiling a document goes through the stages.
* `kind_of_mem_functionBody`: what a statement does.
* `mem_functionBody_of_declared`: what an item declares is among the statements.
-/

namespace DocPreview.Artifact

open Script Text Document

variable {isHighlighting : Bool} {text : Text} {n k : Node} {items ss : List Node}

/-! ### Stages -/

/-- The stages of a document that is compiled: its metadata, the text of its module, the module that
this text is, and the statements that stand for the module. -/
structure Compilation (isHighlighting : Bool) (text : Text) where
  metadata : Json
  code : Text
  emitted : Module
  statements : List Node
  metadataOf_eq : metadataOf text = .ok metadata
  moduleText_eq : Markup.moduleText (prepare isHighlighting text) = .ok code
  parse_eq : Module.parse code = .ok emitted
  functionBody_eq : functionBody emitted.body = .ok statements

namespace Compilation

variable (c : Compilation isHighlighting text)

/-- The statements as a module, with the comments of the module that they stand for. -/
def body : Module := { c.emitted with body := c.statements }

/-- The metadata as text. -/
def metadataText : Text := c.metadata.compact.toList

/-- The artifact that the stages lead to. -/
def artifact : Text := wrap c.metadataText c.body.text

end Compilation

/-- The stages of a document, if it is compiled. -/
def compilation? (isHighlighting : Bool) (text : Text) :
    Except CompileFailure (Compilation isHighlighting text) :=
  match hmetadata : metadataOf text with
  | .error f => .error f
  | .ok metadata =>
    match hcode : Markup.moduleText (prepare isHighlighting text) with
    | .error f => .error (.markup f)
    | .ok code =>
      match hemitted : Module.parse code with
      | .error f => .error (.script (f.message code))
      | .ok emitted =>
        match hstatements : functionBody emitted.body with
        | .error item => .error (.unsupported item)
        | .ok statements =>
          .ok ⟨metadata, code, emitted, statements, hmetadata, hcode, hemitted, hstatements⟩

/-- What is left to do once there is the text of the module. -/
theorem compile_of_moduleText {metadata : Json} {code : Text}
    (hmetadata : metadataOf text = .ok metadata)
    (hcode : Markup.moduleText (prepare isHighlighting text) = .ok code) :
    compile isHighlighting text = (bodyText code).map (wrap metadata.compact.toList) := by
  rw [compile, hmetadata, hcode]
  rfl

/-- Compiling a document goes through these stages and fails in the first one that does. -/
theorem compile_eq (isHighlighting : Bool) (text : Text) :
    compile isHighlighting text = (compilation? isHighlighting text).map Compilation.artifact := by
  unfold compilation?
  split
  · rename_i f hmetadata
    rw [compile, hmetadata]
    rfl
  · rename_i metadata hmetadata
    split
    · rename_i f hcode
      rw [compile, hmetadata, hcode]
      rfl
    · rename_i code hcode
      split
      · rename_i f hemitted
        rw [compile_of_moduleText hmetadata hcode, bodyText, hemitted]
        rfl
      · rename_i emitted hemitted
        split
        · rename_i item hstatements
          simp only [compile_of_moduleText hmetadata hcode, bodyText, hemitted, hstatements]
          rfl
        · rename_i statements hstatements
          simp only [compile_of_moduleText hmetadata hcode, bodyText, hemitted, hstatements]
          rfl

/-- A document is compiled exactly if it has all stages. -/
theorem compile_eq_ok_iff {artifact : Text} : compile isHighlighting text = .ok artifact ↔
    ∃ c : Compilation isHighlighting text, c.artifact = artifact := by
  constructor
  · intro h
    rw [compile_eq] at h
    cases hc : compilation? isHighlighting text with
    | error f => rw [hc] at h; cases h
    | ok c =>
      rw [hc] at h
      exact ⟨c, Except.ok.inj h⟩
  · rintro ⟨c, rfl⟩
    simp only [compile_of_moduleText c.metadataOf_eq c.moduleText_eq, bodyText, c.parse_eq,
      c.functionBody_eq]
    rfl

/-! ### What statements do -/

/-- The imports of the element library are the items of their kind. -/
theorem isFrameworkImport_iff : isFrameworkImport n ↔ n.kind = .importing (some "react") := by
  cases n with
  | importDecl span specifiers source =>
    cases source with
    | string s source raw => simp [isFrameworkImport_importDecl, Node.kind]
    | _ => simp [isFrameworkImport, importSource?, Node.kind]
  | function span name params body isAsync isGenerator =>
    cases name with
    | none => simp [isFrameworkImport, importSource?, Node.kind]
    | some name => cases name <;> simp [isFrameworkImport, importSource?, Node.kind]
  | _ => simp [isFrameworkImport, importSource?, Node.kind]

theorem isPlain_kind_function {span : Span} {name : Option Node} {params body : List Node}
    {isAsync isGenerator : Bool} :
    (Node.function span name params body isAsync isGenerator).kind.IsPlain := by
  unfold Node.kind
  split <;> trivial

/-- A statement that stands for an item does not return, import or export, or it imports the
element library. -/
theorem kind_of_mem_bodyItem (hreturn : n.kind ≠ .returning) (hexport : Reader.ExportsPlain n)
    (h : bodyItem n = .ok ss) (hk : k ∈ ss) :
    k.kind.IsPlain ∨ k.kind = .importing (some "react") := by
  cases n with
  | importDecl span specifiers source =>
    rw [bodyItem] at h
    split_ifs at h with himport
    cases h
    rw [List.mem_singleton.1 hk]
    exact .inr (isFrameworkImport_iff.1 himport)
  | exportDecl span decl =>
    cases h
    rw [List.mem_singleton.1 hk]
    exact .inl (hexport span decl rfl)
  | exportDefaultDecl span decl =>
    unfold bodyItem at h
    dsimp only at h
    split at h
    · cases h
      rw [List.mem_singleton.1 hk]
      exact .inl isPlain_kind_function
    · cases h
      rw [List.mem_singleton.1 hk]
      exact .inl trivial
    · cases h
  | exportNamed span specifiers source =>
    cases source <;> cases h
    cases hk
  | exportAll span source => cases h
  | exportDefaultExpr span e =>
    cases e <;> cases h
    cases hk
  | returnStmt span arg => exact absurd rfl hreturn
  | function span name params body isAsync isGenerator =>
    cases h
    rw [List.mem_singleton.1 hk]
    exact .inl isPlain_kind_function
  | _ =>
    cases h
    rw [List.mem_singleton.1 hk]
    exact .inl trivial

/-- The statements of a module neither return nor export, and all they import is the element
library, if the module does not return and its exports declare nothing that does. -/
theorem kind_of_mem_functionBody (hreturn : ∀ n ∈ items, n.kind ≠ .returning)
    (hexport : ∀ n ∈ items, Reader.ExportsPlain n) (h : functionBody items = .ok ss) (hk : k ∈ ss) :
    k.kind.IsPlain ∨ k.kind = .importing (some "react") := by
  induction items generalizing ss with
  | nil =>
    cases h
    cases hk
  | cons n items ih =>
    obtain ⟨hn, hreturn⟩ := List.forall_mem_cons.1 hreturn
    obtain ⟨hdecl, hexport⟩ := List.forall_mem_cons.1 hexport
    obtain ⟨first, hfirst, h⟩ := exists_of_bind_eq_ok h
    obtain ⟨rest, hrest, h⟩ := exists_of_bind_eq_ok h
    cases h
    rcases List.mem_append.1 hk with hk | hk
    · exact kind_of_mem_bodyItem hn hdecl hfirst hk
    · exact ih hreturn hexport hrest hk

/-! ### What is declared -/

/-- What an item declares: an export what is exported, another item itself. -/
def declared : Node → Node
  | .exportDecl _ decl | .exportDefaultDecl _ decl => decl
  | n => n

/-- The statements of a function. -/
def functionStatements : Node → List Node
  | .function _ _ _ body _ _ => body
  | _ => []

theorem exists_of_mem_functionStatements (h : k ∈ functionStatements n) :
    ∃ span name params body isAsync isGenerator,
      n = .function span name params body isAsync isGenerator := by
  cases n with
  | function => exact ⟨_, _, _, _, _, _, rfl⟩
  | _ => cases h

/-- The modules that are emitted for a document: they do not return, they declare the function that
makes the document, and a function that they declare returns. -/
structure IsEmission (m : Module) : Prop where
  noReturn : ∀ n ∈ m.body, n.kind ≠ .returning
  entryPoint : ∃ n ∈ m.body, (declared n).kind = .function (some "MDXContent")
  returns : ∃ n ∈ m.body, ∃ s ∈ functionStatements (declared n), s.kind = .returning

instance (m : Module) : Decidable (IsEmission m) :=
  decidable_of_iff ((∀ n ∈ m.body, n.kind ≠ .returning) ∧
      (∃ n ∈ m.body, (declared n).kind = .function (some "MDXContent")) ∧
      ∃ n ∈ m.body, ∃ s ∈ functionStatements (declared n), s.kind = .returning)
    ⟨fun ⟨h, h', h''⟩ => ⟨h, h', h''⟩, fun h => ⟨h.noReturn, h.entryPoint, h.returns⟩⟩

/-- A declared function is what an item leaves. -/
theorem mem_bodyItem_of_declared {span : Span} {name : Option Node} {params body : List Node}
    {isAsync isGenerator : Bool} (h : bodyItem n = .ok ss)
    (hd : declared n = .function span name params body isAsync isGenerator) :
    declared n ∈ ss := by
  cases n with
  | exportDecl span decl =>
    cases h
    exact List.mem_singleton_self _
  | exportDefaultDecl span decl =>
    obtain rfl : decl = _ := hd
    cases name <;> cases h
    exact List.mem_singleton_self _
  | function =>
    cases h
    exact List.mem_singleton_self _
  | _ => cases hd

/-- A declared function is among the statements of a module. -/
theorem mem_functionBody_of_declared {span : Span} {name : Option Node} {params body : List Node}
    {isAsync isGenerator : Bool} (hn : n ∈ items) (h : functionBody items = .ok ss)
    (hd : declared n = .function span name params body isAsync isGenerator) :
    declared n ∈ ss := by
  induction items generalizing ss with
  | nil => cases hn
  | cons m items ih =>
    obtain ⟨first, hfirst, h⟩ := exists_of_bind_eq_ok h
    obtain ⟨rest, hrest, h⟩ := exists_of_bind_eq_ok h
    cases h
    rcases List.mem_cons.1 hn with rfl | hn
    · exact List.mem_append_left _ (mem_bodyItem_of_declared hfirst hd)
    · exact List.mem_append_right _ (ih hn hrest)

end DocPreview.Artifact
