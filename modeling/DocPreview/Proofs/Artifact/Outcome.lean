import DocPreview.Proofs.Artifact.Finishing
import DocPreview.Proofs.Markup.Conversion

/-!
# When building succeeds

Compiling a document can fail for its metadata, for its markup and for an item of its module, and
building it for nothing else, if printing and reading are inverse to each other as far as it
matters. So documents that are converted alike are built alike.

## Main definitions

* `IsModuleReadBack`, `IsBodyReadBack`, `IsReadBack`: what is assumed of printing.

## Main results

* `toBool_compile`, `toBool_build`: when compiling and building succeed.
* `toBool_compile_eq`, `toBool_build_eq`: documents that are converted alike.
-/

namespace DocPreview.Artifact

open Text Script
open Markup (Html SameOwnItems ConvertedAlike contentFunction documentFunction documentModule
  documentName moduleItems moduleText reporterFunction)

variable {b b' : Bool} {t t' : Text} {xs ys items : List Node} {n : Node}

/-! ### Items of documents -/

theorem toBool_functionBody_cons (n : Node) (ns : List Node) :
    (functionBody (n :: ns)).toBool = ((bodyItem n).toBool && (functionBody ns).toBool) := by
  rw [functionBody]
  cases bodyItem n with
  | error u => rfl
  | ok ss => cases functionBody ns <;> rfl

theorem toBool_functionBody_append (ns ms : List Node) : (functionBody (ns ++ ms)).toBool =
    ((functionBody ns).toBool && (functionBody ms).toBool) := by
  induction ns with
  | nil => rfl
  | cons n ns ih =>
    rw [List.cons_append, toBool_functionBody_cons, toBool_functionBody_cons, ih, Bool.and_assoc]

/-- A function that takes what it needs stays a function. -/
theorem toBool_bodyItem_takeProvided
    (hn : ∃ span name params body a g, n = .function span name params body a g) (s : Scopes) :
    (bodyItem (n.takeProvided.run s).1).toBool := by
  obtain ⟨span, name, params, body, a, g, rfl⟩ := hn
  rw [Node.takeProvided, Node.walkM]
  rfl

/-- The own items of a document stand before those that make its elements. -/
theorem moduleItems_eq (items : List Node) (hs : List Html) (hasLayout : Bool) :
    moduleItems items hs hasLayout =
      let own := (takeProvidedAll items).run Scopes.start
      let content := (contentFunction hs).run own.2
      let document := (documentFunction hasLayout).takeProvided.run content.2
      own.1 ++ ([content.1, document.1] ++ .exportDefaultExpr Span.none (.named documentName) ::
        if document.2.isChecking then [reporterFunction] else []) :=
  List.append_assoc _ _ _

/-- Whether the module of a document is a body depends on the imports and exports only. -/
theorem toBool_functionBody_moduleItems (items : List Node) (hs : List Html) (hasLayout : Bool) :
    (functionBody (moduleItems items hs hasLayout)).toBool =
      (functionBody ((takeProvidedAll items).run Scopes.start).1).toBool := by
  rw [moduleItems_eq]
  dsimp only
  generalize (takeProvidedAll items).run Scopes.start = own
  have hcontent : (bodyItem ((contentFunction hs).run own.2).1).toBool := rfl
  have hdocument (s : Scopes) :
      (bodyItem ((documentFunction hasLayout).takeProvided.run s).1).toBool :=
    toBool_bodyItem_takeProvided ⟨_, _, _, _, _, _, rfl⟩ s
  have hreport (isChecking : Bool) :
      (functionBody (if isChecking then [reporterFunction] else [])).toBool := by
    cases isChecking <;> rfl
  have hname : (bodyItem (.exportDefaultExpr Span.none (.named documentName))).toBool := rfl
  simp only [toBool_functionBody_append, List.cons_append, List.nil_append,
    toBool_functionBody_cons, hcontent, hdocument, hreport, hname, Bool.and_true]

theorem toBool_functionBody_eq (h : SameOwnItems xs ys) :
    (functionBody xs).toBool = (functionBody ys).toBool := by
  obtain ⟨items, hs, hs', hasLayout, rfl, rfl⟩ := h
  rw [toBool_functionBody_moduleItems, toBool_functionBody_moduleItems]

/-! ### Compiling -/

/-- The text that the items of a module are printed as. -/
def printed (items : List Node) : Text :=
  (⟨Span.none, none, allWithFewParens items, []⟩ : Module).bareText

theorem moduleText_eq (t : Text) : moduleText t = (documentModule t).map printed := by
  rw [moduleText]
  cases documentModule t <;> rfl

/-- What is assumed of printing the module of a document: it is read again, as a body if it was
one. -/
def IsModuleReadBack (b : Bool) (t : Text) : Prop :=
  ∀ items, documentModule (prepare b t) = .ok items → ∃ m, Module.parse (printed items) = .ok m ∧
    (functionBody m.body).toBool = (functionBody items).toBool

/-- Compiling succeeds if there are metadata and a module that is a body. -/
theorem toBool_compile (hread : IsModuleReadBack b t) : (compile b t).toBool =
    ((metadataOf t).toBool && (documentModule (prepare b t)).toOption.any fun items =>
      (functionBody items).toBool) := by
  rw [compile, moduleText_eq]
  cases metadataOf t with
  | error f => rfl
  | ok metadata =>
    cases hitems : documentModule (prepare b t) with
    | error f => rfl
    | ok items =>
      obtain ⟨m, hparse, hbody⟩ := hread items hitems
      change ((bodyText (printed items)).map _).toBool = (functionBody items).toBool
      rw [← hbody, bodyText, hparse]
      dsimp only
      cases functionBody m.body <;> rfl

/-- Documents that are converted alike are compiled alike. -/
theorem toBool_compile_eq (hmetadata : metadataOf t = metadataOf t')
    (h : ConvertedAlike (prepare b t) (prepare b' t')) (hread : IsModuleReadBack b t)
    (hread' : IsModuleReadBack b' t') : (compile b t).toBool = (compile b' t').toBool := by
  rw [toBool_compile hread, toBool_compile hread', hmetadata]
  have hitems := h.documentModule
  generalize documentModule (prepare b t) = r, documentModule (prepare b' t') = r' at hitems
  cases hitems with
  | error e e' => rfl
  | ok hitems => exact congrArg _ (toBool_functionBody_eq hitems)

/-! ### Building -/

/-- What is assumed of a compiled document and of printing its statements: the module is one that is
emitted for a document, there are no settings of elements but those at the head of the artifact,
and behind the line of the metadata the statements are read as items of their kinds. -/
structure IsBodyReadBack (c : Compilation b t) (rest : Text) : Prop where
  emission : IsEmission c.emitted
  settings : HasSettingsAtHead c rest
  statements : ∃ m, Module.parse (withMetadata c.metadataText rest) = .ok m ∧
    m.body.tail.map Node.kind = c.statements.map Node.kind

/-- What is assumed of printing what a document is compiled to: its module is read again, and so are
its statements. -/
structure IsReadBack (b : Bool) (t : Text) : Prop where
  module : IsModuleReadBack b t
  body : ∀ c : Compilation b t, ∃ rest, IsBodyReadBack c rest

/-- Whether the statements of a document are read back. -/
def isBodyReadBack (c : Compilation b t) : Bool :=
  decide (IsEmission c.emitted) && decide (¬ "@jsx".toList <:+: c.artifact) &&
    (Module.parse (withMetadata c.metadataText (trimEnd c.body.text))).toOption.any fun m =>
      m.body.tail.map Node.kind = c.statements.map Node.kind

/-- Whether the module of a document and its statements are read back. -/
def isReadBack (b : Bool) (t : Text) : Bool :=
  ((documentModule (prepare b t)).toOption.all fun items =>
    (Module.parse (printed items)).toOption.any fun m =>
      (functionBody m.body).toBool = (functionBody items).toBool) &&
  (compilation? b t).toOption.all isBodyReadBack

theorem exists_isBodyReadBack {c : Compilation b t} (h : isBodyReadBack c) :
    ∃ rest, IsBodyReadBack c rest := by
  simp only [isBodyReadBack, Bool.and_eq_true, decide_eq_true_eq] at h
  obtain ⟨⟨hemission, hnone⟩, hparsed⟩ := h
  obtain ⟨m, hm, hsame⟩ := (Option.any_eq_true _ _).1 hparsed
  exact ⟨_, hemission, hasSettingsAtHead_of_not_infix hnone, m, eq_ok_of_toOption_eq_some hm,
    of_decide_eq_true hsame⟩

theorem compilation_ext (c c' : Compilation b t) : c = c' := by
  obtain ⟨metadata, code, emitted, statements, hmetadata, hcode, hemitted, hstatements⟩ := c
  obtain ⟨metadata', code', emitted', statements', hmetadata', hcode', hemitted', hstatements'⟩ :=
    c'
  obtain rfl : metadata = metadata' := Except.ok.inj (hmetadata.symm.trans hmetadata')
  obtain rfl : code = code' := Except.ok.inj (hcode.symm.trans hcode')
  obtain rfl : emitted = emitted' := Except.ok.inj (hemitted.symm.trans hemitted')
  obtain rfl : statements = statements' := Except.ok.inj (hstatements.symm.trans hstatements')
  rfl

/-- The stages of a document are those that have been computed. -/
theorem compilation?_eq_ok (c : Compilation b t) : compilation? b t = .ok c := by
  have hcompile : (compilation? b t).map Compilation.artifact = .ok c.artifact := by
    rw [← compile_eq, compile_eq_ok_iff]
    exact ⟨c, rfl⟩
  cases hfound : compilation? b t with
  | error f =>
    rw [hfound] at hcompile
    cases hcompile
  | ok c' => rw [compilation_ext c c']

theorem isReadBack_of_check (h : isReadBack b t) : IsReadBack b t := by
  obtain ⟨hmodule, hbody⟩ := Bool.and_eq_true_iff.1 h
  constructor
  · intro items hitems
    rw [hitems] at hmodule
    obtain ⟨m, hm, hsame⟩ := (Option.any_eq_true _ _).1 hmodule
    exact ⟨m, eq_ok_of_toOption_eq_some hm, of_decide_eq_true hsame⟩
  · intro c
    rw [compilation?_eq_ok c] at hbody
    exact exists_isBodyReadBack hbody

/-- Building succeeds if compiling does. -/
theorem toBool_build (hread : IsReadBack b t) : (build b t).toBool = (compile b t).toBool := by
  cases hcompile : compile b t with
  | error f =>
    rw [build, hcompile]
    rfl
  | ok artifact =>
    obtain ⟨c, rfl⟩ := compile_eq_ok_iff.1 hcompile
    obtain ⟨rest, hemission, hsettings, m, hparse, htail⟩ := hread.body c
    have hlower : lower (sanitize c.artifact) = .ok (lowered m).bareText :=
      lower_eq_ok_iff.2 ⟨m, by rw [sanitize_artifact hemission hsettings, hparse], rfl⟩
    have hfinish :=
      finish_of_mentions (mentions_entryPoint_lowered hemission hparse hsettings.rest htail)
    rw [build_eq_ok hcompile hlower hfinish]
    rfl

/-- Documents that are converted alike are built alike. -/
theorem toBool_build_eq (hmetadata : metadataOf t = metadataOf t')
    (h : ConvertedAlike (prepare b t) (prepare b' t')) (hread : IsReadBack b t)
    (hread' : IsReadBack b' t') : (build b t).toBool = (build b' t').toBool := by
  rw [toBool_build hread, toBool_build hread',
    toBool_compile_eq hmetadata h hread.module hread'.module]

end DocPreview.Artifact
