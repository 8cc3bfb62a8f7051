import DocPreview.Artifact.Body
import DocPreview.Markup.Embedded
import Mathlib.Data.List.Basic

/-!
# What a module becomes as the body of a function

Two passes in different places take the module syntax away. The first one refuses imports of other
libraries and exports that read from another module, keeps the declarations under exports, and
leaves the imports of the element library; the second one drops these. Together they leave the
statements of the module and the declarations under its exports.

## Main definitions

* `IsItem`: the items that a module can have.
* `Refused`: the items that have no place in the body of a function, and why.
* `statementsOf`: what an item leaves.

## Main results

* `bodyItem_eq_error_iff`, `filter_of_bodyItem_eq_ok`: one item in both passes.
* `functionBody_eq_error_iff`: the first item that is refused is the failure.
* `functionBody_keeps_statements`: when the passes fail, and what they leave.
-/

namespace DocPreview.Artifact

open Script
open Markup (isModuleItem)

variable {n : Node} {items body : List Node} {u : UnsupportedItem}

/-! ### Items -/

/-- What an export can declare. -/
inductive IsDeclaration : Node → Prop
  | function {span name params body isAsync isGenerator} :
      IsDeclaration (.function span name params body isAsync isGenerator)
  | classNode {span name base members} : IsDeclaration (.classNode span name base members)
  | varDecl {span kind declarators} : IsDeclaration (.varDecl span kind declarators)

/-- The items that a module can have: sources are strings, an export declares a declaration, and a
default export is one of a name. -/
inductive IsItem : Node → Prop
  | importDecl {span specifiers s source raw} :
      IsItem (.importDecl span specifiers (.string s source raw))
  | exportDecl {span decl} (h : IsDeclaration decl) : IsItem (.exportDecl span decl)
  | exportList {span specifiers} : IsItem (.exportNamed span specifiers none)
  | exportFrom {span specifiers s source raw} :
      IsItem (.exportNamed span specifiers (some (.string s source raw)))
  | exportAll {span s source raw} : IsItem (.exportAll span (.string s source raw))
  | exportDefault {span s name} : IsItem (.exportDefaultExpr span (.ident s name))
  | statement {n : Node} (h : isModuleItem n = false) : IsItem n

/-- The items that have no place in the body of a function, with what is reported for them. -/
inductive Refused : Node → UnsupportedItem → Prop
  | importFrom {span specifiers s source raw} (h : source ≠ "react") :
      Refused (.importDecl span specifiers (.string s source raw)) (.importFrom source)
  | exportFrom {span specifiers s source raw} :
      Refused (.exportNamed span specifiers (some (.string s source raw))) (.exportFrom source)
  | exportAll {span s source raw} :
      Refused (.exportAll span (.string s source raw)) (.exportFrom source)

/-- What an item leaves: a statement itself, an export what it declares. -/
def statementsOf : Node → List Node
  | .exportDecl _ decl => [decl]
  | .importDecl _ _ _ | .exportNamed _ _ _ | .exportAll _ _ | .exportDefaultDecl _ _
  | .exportDefaultExpr _ _ => []
  | n => [n]

theorem IsDeclaration.isModuleItem_eq_false (h : IsDeclaration n) : isModuleItem n = false := by
  cases h <;> rfl

theorem statementsOf_of_isModuleItem_eq_false (h : isModuleItem n = false) :
    statementsOf n = [n] := by
  cases n <;> first | rfl | cases h

theorem bodyItem_of_isModuleItem_eq_false (h : isModuleItem n = false) : bodyItem n = .ok [n] := by
  cases n <;> first | rfl | cases h

theorem not_refused_of_isModuleItem_eq_false (h : isModuleItem n = false) : ¬ Refused n u := by
  intro hu
  cases hu <;> cases h

theorem isFrameworkImport_of_isModuleItem_eq_false (h : isModuleItem n = false) :
    isFrameworkImport n = false := by
  cases n <;> first | rfl | cases h

theorem isFrameworkImport_importDecl {span s : Span} {specifiers : List Node} {source : String}
    {raw : Option String} :
    isFrameworkImport (.importDecl span specifiers (.string s source raw)) ↔ source = "react" := by
  simp [isFrameworkImport, importSource?, frameworkModule]

/-- What an item leaves is no import and no export. -/
theorem isModuleItem_of_mem_statementsOf (hn : IsItem n) {k : Node} (hk : k ∈ statementsOf n) :
    isModuleItem k = false := by
  cases hn with
  | exportDecl h => exact List.mem_singleton.1 hk ▸ h.isModuleItem_eq_false
  | statement h =>
    rw [statementsOf_of_isModuleItem_eq_false h, List.mem_singleton] at hk
    exact hk ▸ h
  | _ => cases hk

/-! ### One item in both passes -/

/-- An item is refused by the first pass exactly if it has no place in the body of a function. -/
theorem bodyItem_eq_error_iff (hn : IsItem n) : bodyItem n = .error u ↔ Refused n u := by
  cases hn with
  | @importDecl span specifiers s source raw =>
    by_cases hsource : source = "react"
    · rw [bodyItem, if_pos (isFrameworkImport_importDecl.2 hsource)]
      refine ⟨(nomatch ·), fun h => ?_⟩
      cases h with
      | importFrom hne => exact absurd hsource hne
    · rw [bodyItem, if_neg (mt isFrameworkImport_importDecl.1 hsource)]
      refine ⟨fun h => ?_, fun h => ?_⟩
      · cases h
        exact .importFrom hsource
      · cases h
        rfl
  | exportFrom =>
    refine ⟨fun h => ?_, fun h => ?_⟩
    · cases h
      exact .exportFrom
    · cases h
      rfl
  | exportAll =>
    refine ⟨fun h => ?_, fun h => ?_⟩
    · cases h
      exact .exportAll
    · cases h
      rfl
  | exportDecl | exportList | exportDefault =>
    exact iff_of_false (nomatch ·) (nomatch ·)
  | statement h =>
    rw [bodyItem_of_isModuleItem_eq_false h]
    exact iff_of_false (nomatch ·) (not_refused_of_isModuleItem_eq_false h)

/-- What the first pass makes of an item, the second one cuts down to what the item leaves. -/
theorem filter_of_bodyItem_eq_ok (hn : IsItem n) (h : bodyItem n = .ok body) :
    body.filter (fun k => !isFrameworkImport k) = statementsOf n := by
  cases hn with
  | @importDecl span specifiers s source raw =>
    by_cases hsource : source = "react"
    · have hframework : isFrameworkImport (.importDecl span specifiers (.string s source raw)) :=
        isFrameworkImport_importDecl.2 hsource
      rw [bodyItem, if_pos hframework] at h
      cases h
      rw [List.filter_cons_of_neg (by simp [hframework])]
      rfl
    · rw [bodyItem, if_neg (mt isFrameworkImport_importDecl.1 hsource)] at h
      cases h
  | exportDecl hdecl =>
    cases h
    exact List.filter_cons_of_pos
      (by rw [isFrameworkImport_of_isModuleItem_eq_false hdecl.isModuleItem_eq_false]; rfl)
  | exportList | exportDefault =>
    cases h
    rfl
  | exportFrom | exportAll => cases h
  | statement hstatement =>
    rw [bodyItem_of_isModuleItem_eq_false hstatement] at h
    cases h
    rw [statementsOf_of_isModuleItem_eq_false hstatement]
    exact List.filter_cons_of_pos
      (by rw [isFrameworkImport_of_isModuleItem_eq_false hstatement]; rfl)

/-! ### The items of a module -/

/-- The items before one that is refused do not matter, and neither do those behind it. -/
theorem functionBody_cons_of_error (h : bodyItem n = .error u) :
    functionBody (n :: items) = .error u := by
  rw [functionBody, h]
  rfl

theorem functionBody_cons_of_ok {ss : List Node} (h : bodyItem n = .ok ss) :
    functionBody (n :: items) = (functionBody items).map (ss ++ ·) := by
  rw [functionBody, h]
  cases functionBody items <;> rfl

/-- A module fails with what is reported for the first item that is refused. -/
theorem functionBody_eq_error_iff (hitems : ∀ n ∈ items, IsItem n) :
    functionBody items = .error u ↔ ∃ before n after, items = before ++ n :: after ∧
      (∀ m ∈ before, ∀ v, ¬ Refused m v) ∧ Refused n u := by
  induction items with
  | nil => exact iff_of_false (nomatch ·) (by rintro ⟨_, _, _, h, -⟩; simp at h)
  | cons n items ih =>
    obtain ⟨hn, hitems⟩ := List.forall_mem_cons.1 hitems
    cases hbody : bodyItem n with
    | error v =>
      have hv := (bodyItem_eq_error_iff hn).1 hbody
      rw [functionBody_cons_of_error hbody]
      constructor
      · rintro h
        cases h
        exact ⟨[], n, items, rfl, by simp, hv⟩
      · rintro ⟨before, m, after, heq, hbefore, hm⟩
        cases before with
        | nil =>
          cases heq
          rw [← (bodyItem_eq_error_iff hn).2 hm, hbody]
        | cons k before =>
          cases heq
          exact absurd hv (hbefore n List.mem_cons_self v)
    | ok ss =>
      have hn' (v : UnsupportedItem) : ¬ Refused n v := by
        rw [← bodyItem_eq_error_iff hn, hbody]
        exact (nomatch ·)
      rw [functionBody_cons_of_ok hbody]
      constructor
      · intro h
        cases hrest : functionBody items with
        | ok rest => rw [hrest] at h; cases h
        | error v =>
          rw [hrest] at h
          cases h
          obtain ⟨before, m, after, rfl, hbefore, hm⟩ := (ih hitems).1 hrest
          exact ⟨n :: before, m, after, rfl, List.forall_mem_cons.2 ⟨hn', hbefore⟩, hm⟩
      · rintro ⟨before, m, after, heq, hbefore, hm⟩
        cases before with
        | nil =>
          cases heq
          exact absurd hm (hn' u)
        | cons k before =>
          cases heq
          rw [(ih hitems).2 ⟨before, m, after, rfl, (List.forall_mem_cons.1 hbefore).2, hm⟩]
          rfl

/-- What is left of a module in which nothing is refused. -/
theorem filter_of_functionBody_eq_ok (hitems : ∀ n ∈ items, IsItem n)
    (h : functionBody items = .ok body) :
    body.filter (fun k => !isFrameworkImport k) = items.flatMap statementsOf := by
  induction items generalizing body with
  | nil =>
    cases h
    rfl
  | cons n items ih =>
    obtain ⟨hn, hitems⟩ := List.forall_mem_cons.1 hitems
    cases hbody : bodyItem n with
    | error v => rw [functionBody_cons_of_error hbody] at h; cases h
    | ok ss =>
      rw [functionBody_cons_of_ok hbody] at h
      cases hrest : functionBody items with
      | error v => rw [hrest] at h; cases h
      | ok rest =>
        rw [hrest] at h
        cases h
        rw [List.filter_append, filter_of_bodyItem_eq_ok hn hbody, ih hitems hrest,
          List.flatMap_cons]

/-- A module fails to become the body of a function exactly if it imports from another library than
`react` or exports from a module, with what is reported for the first such item. Otherwise the
imports of `react` are all that both passes drop besides export lists and the default export: the
statements and the declarations under exports are left as they are, in their order. -/
theorem functionBody_keeps_statements (hitems : ∀ n ∈ items, IsItem n) :
    (∀ u, functionBody items = .error u ↔ ∃ before n after, items = before ++ n :: after ∧
      (∀ m ∈ before, ∀ v, ¬ Refused m v) ∧ Refused n u) ∧
    ((∀ n ∈ items, ∀ u, ¬ Refused n u) → ∃ body, functionBody items = .ok body ∧
      body.filter (fun n => !isFrameworkImport n) = items.flatMap statementsOf ∧
      ∀ n ∈ body.filter (fun n => !isFrameworkImport n), isModuleItem n = false) := by
  refine ⟨fun u => functionBody_eq_error_iff hitems, fun hnone => ?_⟩
  cases hbody : functionBody items with
  | error u =>
    obtain ⟨before, n, after, rfl, -, hn⟩ := (functionBody_eq_error_iff hitems).1 hbody
    exact absurd hn (hnone n (by simp) u)
  | ok body =>
    have hleft := filter_of_functionBody_eq_ok hitems hbody
    refine ⟨body, rfl, hleft, fun k hk => ?_⟩
    rw [hleft] at hk
    obtain ⟨n, hn, hk⟩ := List.mem_flatMap.1 hk
    exact isModuleItem_of_mem_statementsOf (hitems n hn) hk

/-- Two exports, an import of `react` and a default export leave one declaration; with an import of
another library behind them the module fails. -/
theorem functionBody_keeps_statements_declaration :
    let declared : Node := .varDecl Span.none .const []
    let items : List Node :=
      [.importDecl Span.none [] (.string Span.none "react" none), .exportNamed Span.none [] none,
        .exportDecl Span.none declared, .exportDefaultExpr Span.none (.ident Span.none "MDXContent")]
    let foreign : Node := .importDecl Span.none [] (.string Span.none "./chart.js" none)
    (∀ n ∈ items ++ [foreign], IsItem n) ∧
      functionBody (items ++ [foreign]) = .error (.importFrom "./chart.js") ∧
      ∃ body, functionBody items = .ok body ∧
        body.filter (fun n => !isFrameworkImport n) = [declared] := by
  intro declared items foreign
  have hitems : ∀ n ∈ items, IsItem n := by
    simp only [items, List.forall_mem_cons]
    exact ⟨.importDecl, .exportList, .exportDecl .varDecl, .exportDefault, by simp⟩
  have hnone : ∀ n ∈ items, ∀ u, ¬ Refused n u := by
    intro n hn u hu
    cases hu <;> simp_all [items, declared]
  have hall : ∀ n ∈ items ++ [foreign], IsItem n :=
    List.forall_mem_append.2 ⟨hitems, List.forall_mem_singleton.2 .importDecl⟩
  refine ⟨hall, ?_, ?_⟩
  · exact ((functionBody_keeps_statements hall).1 _).2
      ⟨items, foreign, [], rfl, hnone, .importFrom (by decide)⟩
  · obtain ⟨body, hbody, hleft, -⟩ := (functionBody_keeps_statements hitems).2 hnone
    exact ⟨body, hbody, hleft⟩

end DocPreview.Artifact
