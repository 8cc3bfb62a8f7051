import DocPreview.Artifact.Build
import DocPreview.Proofs.Artifact.Compilation
import DocPreview.Proofs.Artifact.EntryPoint
import DocPreview.Proofs.Artifact.Lowering
import DocPreview.Proofs.Artifact.Wrapping
import DocPreview.Proofs.Script.Printing

/-!
# Finishing a document

The statements of a compiled document are printed, sanitized as text, read, lowered and printed
again before the call of the entry point is put behind them. Sanitizing takes the return of the
exports away and adds none, since the statements mention one, and the printed items declare the
entry point. So finishing does not fail, and the call is the only item that returns.

Printing and reading are not inverse to each other in general. What is assumed of them is that the
items that are read have the kinds of those that were printed.

## Main definitions

* `lowered`: a module without its imports and with calls for its elements.
* `PrintsItems`: what is assumed of printing.

## Main results

* `finish_of_mentions`: a body that mentions the entry point is finished.
* `isPlain_of_mem_lowered`, `exists_mem_lowered`: the items of a lowered document.
* `build_returns_once`: the executable code of a document.
-/

namespace DocPreview.Artifact

open Text Script

variable {isHighlighting : Bool} {text word s t rest code : Text} {m : Module} {n : Node}

/-! ### Words that are mentioned -/

/-- A word that stands in a text is mentioned there. -/
theorem mentions_of_standsIn (hne : word ≠ []) (h : StandsIn word t) : mentions word t := by
  obtain ⟨before, after, hbefore, hafter, a, b, rfl⟩ := h
  have hword : mentions word (word ++ after :: b) := by
    have hafter : Unicode.isWord after = false := by
      simp only [List.mem_cons, List.not_mem_nil, or_false] at hafter
      rcases hafter with rfl | rfl | rfl <;> decide +kernel
    obtain ⟨d, w, rfl⟩ := List.exists_cons_of_ne_nil hne
    have hrest := after?_append (d :: w) (after :: b)
    rw [List.cons_append] at hrest
    simp [mentions, mentionsFrom, hrest, startsWithWord, hafter]
  have hbefore : Unicode.isWord before = false := by
    simp only [List.mem_cons, List.not_mem_nil, or_false] at hbefore
    rcases hbefore with rfl | rfl <;> decide +kernel
  have hall := mentions_append_cons (a := a) hbefore hword
  simpa using hall

/-- A body that mentions the entry point is finished. -/
theorem finish_of_mentions (h : mentions entryPoint s) :
    finish s = .ok (trimEnd s ++ entryPointEnd) := by
  have hne : entryPoint ≠ [] := by decide
  have hword : ∀ d ∈ entryPoint, ¬ isBlank d := by
    show ∀ d ∈ "MDXContent".toList, ¬ isBlank d
    simp [isBlank]
  have hend : mentions entryPoint (trimEnd s) := (mentions_trimEnd hne hword s).trans h
  have hcode : ¬ (trim (trimEnd s)).isEmpty := by
    rw [List.isEmpty_iff]
    intro hnil
    have htrim := mentions_trim hne hword (trimEnd s)
    rw [hnil, hend] at htrim
    cases htrim
  have hfinish : finish s = .ok (trimEnd s ++ '\n' :: entryPointCall ++ ['\n']) := by
    unfold finish
    dsimp only
    rw [if_neg hcode, if_pos hend]
  exact hfinish.trans (congrArg Except.ok (List.append_assoc ..))

/-! ### Lowered modules -/

/-- A module without its imports of the element library, with calls for its elements. -/
def lowered (m : Module) : Module :=
  Module.lowerElements { m with body := m.body.filter fun n => !isFrameworkImport n }

theorem lower_eq_ok_iff : lower s = .ok code ↔
    ∃ m, Module.parse s = .ok m ∧ (lowered m).bareText = code := by
  unfold lower
  cases Module.parse s with
  | error f => simp
  | ok m => simp [lowered]

/-- Without the mark of a setting, each item that stays is written with classic calls. -/
theorem body_lowered (hparse : Module.parse s = .ok m) (hs : ¬ "@jsx".toList <:+: s) :
    (lowered m).body = (m.body.filter fun n => !isFrameworkImport n).map Node.calls := by
  rw [lowered, lowerElements_of_blockComments hparse fun x hx hsetting =>
    hs ((infix_of_hasSettingLine hsetting).trans (infix_of_mem_blockComments hx))]

/-- What is assumed of printing: behind the line of the metadata, the statements of a document are
read as items of their kinds, and so are the lowered items in front of the call of the entry
point. -/
structure PrintsItems (c : Compilation isHighlighting text) (rest : Text) : Prop where
  statements : ∀ m, Module.parse (withMetadata c.metadataText rest) = .ok m →
    m.body.tail.map Node.kind = c.statements.map Node.kind
  lowered : ∀ m, Module.parse (withMetadata c.metadataText rest) = .ok m →
    ReadsUpTo (trimEnd (lowered m).bareText ++ entryPointEnd) entryPointEnd
      ((lowered m).body.map Node.kind)

/-- Whether items are read as they are printed. -/
def arePrinted (c : Compilation isHighlighting text) (rest : Text) : Bool :=
  (Module.parse (withMetadata c.metadataText rest)).toOption.all fun m =>
    m.body.tail.map Node.kind = c.statements.map Node.kind &&
      isReadUpTo (trimEnd (lowered m).bareText ++ entryPointEnd) entryPointEnd
        ((lowered m).body.map Node.kind)

theorem printsItems_of_arePrinted {c : Compilation isHighlighting text} (h : arePrinted c rest) :
    PrintsItems c rest := by
  have hall (m : Module) (hm : Module.parse (withMetadata c.metadataText rest) = .ok m) :
      m.body.tail.map Node.kind = c.statements.map Node.kind ∧
        isReadUpTo (trimEnd (lowered m).bareText ++ entryPointEnd) entryPointEnd
          ((lowered m).body.map Node.kind) := by
    simpa [arePrinted, hm, Except.toOption] using h
  exact ⟨fun m hm => (hall m hm).1, fun m hm => readsUpTo_of_isReadUpTo (hall m hm).2⟩

/-- The metadata are the first item behind which the others are read. -/
theorem exists_body_of_parse {metadata : Text}
    (h : Module.parse (withMetadata metadata rest) = .ok m) :
    ∃ n ns, m.body = n :: ns ∧ n.kind = .other := by
  obtain ⟨s, hrun⟩ := exists_run_of_parse h
  have hconst : (moduleStart (withMetadata metadata rest)).cur.token = .word "const" false := rfl
  obtain ⟨n, ns, t, hbody, hitem⟩ :=
    Reader.exists_cons_of_run_items (by rw [hconst]; exact Token.noConfusion) hrun
  exact ⟨n, ns, hbody, Reader.kind_of_statement_const hconst hitem⟩

/-! ### The items of a lowered document -/

section Items

variable {c : Compilation isHighlighting text}

/-- The statements of a document mention a return. -/
theorem IsEmission.mentions_return (h : IsEmission c.emitted) :
    mentions "return".toList c.body.text := by
  obtain ⟨n, hn, s, hs, hkind⟩ := h.returns
  obtain ⟨span, name, params, body, isAsync, isGenerator, hd⟩ :=
    exists_of_mem_functionStatements hs
  obtain ⟨span', arg, rfl⟩ := exists_returnStmt_of_kind hkind
  have hmem : declared n ∈ c.body.body := mem_functionBody_of_declared hn c.functionBody_eq hd
  rw [hd] at hs hmem
  exact mentions_of_standsIn (by decide) (standsIn_textWith hmem fun q hq _ =>
    standsIn_functionReturn hs hq)

/-- What a document is lowered to does not return, import or export. -/
theorem isPlain_of_mem_lowered (h : IsEmission c.emitted)
    (hparse : Module.parse (withMetadata c.metadataText rest) = .ok m)
    (hsetting : ¬ "@jsx".toList <:+: withMetadata c.metadataText rest)
    (htail : m.body.tail.map Node.kind = c.statements.map Node.kind) (hn : n ∈ (lowered m).body) :
    n.kind.IsPlain := by
  rw [body_lowered hparse hsetting] at hn
  obtain ⟨k, hk, rfl⟩ := List.mem_map.1 hn
  obtain ⟨hk, hkept⟩ := List.mem_filter.1 hk
  rw [kind_calls]
  obtain ⟨first, ns, hbody, hfirst⟩ := exists_body_of_parse hparse
  rw [hbody] at hk htail
  rcases List.mem_cons.1 hk with rfl | hk
  · rw [hfirst]
    trivial
  · obtain ⟨s, hs, hkind⟩ := List.mem_map.1 (htail ▸ List.mem_map_of_mem (f := Node.kind) hk)
    have hstatement := kind_of_mem_functionBody h.noReturn
      (fun n hn => exportsPlain_of_mem_parse c.parse_eq hn) c.functionBody_eq hs
    rw [hkind] at hstatement
    refine hstatement.resolve_right fun himport => ?_
    rw [isFrameworkImport_iff.2 himport] at hkept
    cases hkept

/-- What a document is lowered to declares the entry point. -/
theorem exists_mem_lowered (h : IsEmission c.emitted)
    (hparse : Module.parse (withMetadata c.metadataText rest) = .ok m)
    (hsetting : ¬ "@jsx".toList <:+: withMetadata c.metadataText rest)
    (htail : m.body.tail.map Node.kind = c.statements.map Node.kind) :
    ∃ n ∈ (lowered m).body, n.kind = .function (some "MDXContent") := by
  obtain ⟨n, hn, hkind⟩ := h.entryPoint
  obtain ⟨_, _, _, _, _, _, hd⟩ := exists_function_of_kind hkind
  have hmem := List.mem_map_of_mem (f := Node.kind)
    (mem_functionBody_of_declared hn c.functionBody_eq hd)
  rw [← htail] at hmem
  obtain ⟨k, hk, hsame⟩ := List.mem_map.1 hmem
  have hkept : isFrameworkImport k = false := by
    rw [Bool.eq_false_iff, ne_eq, isFrameworkImport_iff, hsame, hkind]
    exact ItemKind.noConfusion
  refine ⟨k.calls, ?_, by rw [kind_calls, hsame, hkind]⟩
  rw [body_lowered hparse hsetting]
  exact List.mem_map_of_mem (List.mem_filter.2 ⟨List.mem_of_mem_tail hk, by rw [hkept]; rfl⟩)

/-- The text of what a document is lowered to mentions the entry point. -/
theorem mentions_entryPoint_lowered (h : IsEmission c.emitted)
    (hparse : Module.parse (withMetadata c.metadataText rest) = .ok m)
    (hsetting : ¬ "@jsx".toList <:+: withMetadata c.metadataText rest)
    (htail : m.body.tail.map Node.kind = c.statements.map Node.kind) :
    mentions entryPoint (lowered m).bareText := by
  obtain ⟨n, hn, hkind⟩ := exists_mem_lowered h hparse hsetting htail
  obtain ⟨_, _, _, _, _, _, rfl⟩ := exists_function_of_kind hkind
  exact mentions_of_standsIn (by decide) (standsIn_textWith hn fun q hq hcomments =>
    standsIn_functionName hq (hcomments rfl))

end Items

/-! ### Settings at the head -/

/-- The only settings of elements in an artifact stand at the head of its body, before `rest`. -/
structure HasSettingsAtHead (c : Compilation isHighlighting text) (rest : Text) : Prop where
  head : BehindSettings (trimEnd c.body.text) rest
  rest : ¬ "@jsx".toList <:+: withMetadata c.metadataText rest

/-- An artifact without settings. -/
theorem hasSettingsAtHead_of_not_infix {c : Compilation isHighlighting text}
    (h : ¬ "@jsx".toList <:+: c.artifact) : HasSettingsAtHead c (trimEnd c.body.text) where
  head := .nil
  rest hmark := by
    refine h (hmark.trans ⟨"\"use strict\";\n".toList, '\n' :: wrappedReturn, ?_⟩)
    rw [Compilation.artifact, wrap_eq, List.append_assoc]
    rfl

/-- Sanitizing leaves the line of the metadata and the statements. -/
theorem sanitize_artifact {c : Compilation isHighlighting text} (hemission : IsEmission c.emitted)
    (hsettings : HasSettingsAtHead c rest) :
    sanitize c.artifact = withMetadata c.metadataText rest := by
  have hmetadata : ¬ "@jsx".toList <:+: c.metadataText := fun h => hsettings.rest <| h.trans
    ⟨"const frontmatter = ".toList, ";\n".toList ++ rest, by rw [← List.append_assoc]; rfl⟩
  have hrest : ¬ "@jsx".toList <:+: rest := fun h =>
    hsettings.rest (h.trans (List.suffix_append _ rest).isInfix)
  exact sanitize_wrap_of_behindSettings hsettings.head hmetadata hrest hemission.mentions_return

/-! ### Executable code -/

theorem build_eq_ok {artifact executable : Text}
    (hcompile : compile isHighlighting text = .ok artifact)
    (hlower : lower (sanitize artifact) = .ok code) (hfinish : finish code = .ok executable) :
    build isHighlighting text = .ok executable := by
  have hassemble : build isHighlighting text = assemble artifact := by
    rw [build, hcompile]
    rfl
  have hcode : assemble artifact = (finish code).mapError .assembly := by
    rw [assemble, hlower]
    rfl
  rw [hassemble, hcode, hfinish]
  rfl

/-- Where a document is compiled to an artifact that has no settings of elements but those at its
head, and lowered, it is finished: the executable code is read as items that do not return, import
or export, and the return of the call of the entry point behind them. -/
theorem build_returns_once (c : Compilation isHighlighting text) (hemission : IsEmission c.emitted)
    (hsettings : HasSettingsAtHead c rest) (hprint : PrintsItems c rest)
    (hlower : lower (sanitize c.artifact) = .ok code) :
    ∃ executable, finish code = .ok executable ∧ build isHighlighting text = .ok executable ∧
      ∃ m ns n, Module.parse executable = .ok m ∧ m.body = ns ++ [n] ∧ IsEntryPointReturn n ∧
        ∀ k ∈ ns, k.kind.IsPlain := by
  obtain ⟨m, hparse, rfl⟩ := lower_eq_ok_iff.1 hlower
  rw [sanitize_artifact hemission hsettings] at hparse
  have htail := hprint.statements m hparse
  have hfinish :=
    finish_of_mentions (mentions_entryPoint_lowered hemission hparse hsettings.rest htail)
  have hbuild := build_eq_ok (compile_eq_ok_iff.2 ⟨c, rfl⟩) hlower hfinish
  obtain ⟨e, ns, last, hexecutable, hbody, hkinds, hlast⟩ :=
    exists_parse_of_readsUpTo (hprint.lowered m hparse)
  refine ⟨_, hfinish, hbuild, e, ns, last, hexecutable, hbody, hlast, fun k hk => ?_⟩
  obtain ⟨l, hl, hsame⟩ := List.mem_map.1 (hkinds ▸ List.mem_map_of_mem (f := Node.kind) hk)
  rw [← hsame]
  exact isPlain_of_mem_lowered hemission hparse hsettings.rest htail hl

/-- A document with an import of the element library, an export and a heading. -/
def sample : Text := "import React from \"react\"\n\nexport const a = 1\n\n# Hi\n".toList

/-- What is assumed of printing holds for this document, and its executable code ends with the
call. -/
theorem build_returns_once_sample : ∃ (c : Compilation false sample) (rest code : Text),
    IsEmission c.emitted ∧ HasSettingsAtHead c rest ∧ PrintsItems c rest ∧
      lower (sanitize c.artifact) = .ok code ∧ ∃ executable, finish code = .ok executable ∧
        build false sample = .ok executable ∧ ∃ m ns n, Module.parse executable = .ok m ∧
          m.body = ns ++ [n] ∧ IsEntryPointReturn n ∧ ∀ k ∈ ns, k.kind.IsPlain := by
  have hsample : (compilation? false sample).toOption.any fun c =>
      decide (IsEmission c.emitted) && decide (¬ "@jsx".toList <:+: c.artifact) &&
        arePrinted c (trimEnd c.body.text) && (lower (sanitize c.artifact)).toBool := by
    decide +kernel
  obtain ⟨c, -, hc⟩ := (Option.any_eq_true _ _).1 hsample
  simp only [Bool.and_eq_true, decide_eq_true_eq] at hc
  obtain ⟨⟨⟨hemission, hnone⟩, hprinted⟩, hlower⟩ := hc
  obtain ⟨code, hcode⟩ := exists_eq_ok_of_toBool hlower
  have hsettings := hasSettingsAtHead_of_not_infix hnone
  have hprint := printsItems_of_arePrinted hprinted
  exact ⟨c, _, code, hemission, hsettings, hprint, hcode,
    build_returns_once c hemission hsettings hprint hcode⟩

end DocPreview.Artifact
