import DocPreview.Highlight.Scope

/-!
# Grammars

A grammar says how code of a language is read: in a context, the rules of the context apply. A rule
gives scopes to what its pattern matches, and it can leave its context or enter others. A context
can give scopes to all that is read in it. Patterns, and the names of scopes with spaces between
them, are kept as texts.

## Main definitions

* `Action`: what a rule does to the contexts.
* `Rule`, `Entry`, `Context`, `Grammar`: the parts of a grammar.
* `Grammar.embedded`: a grammar with other names for its contexts, for use within another one.
-/

namespace DocPreview.Highlight

/-- What a rule does to the contexts; they are given by names. -/
inductive Action where
  | stay
  /-- The context is left. -/
  | pop
  /-- Contexts are entered; the last one is the innermost. -/
  | push (names : List String)
  /-- The context is left, and others are entered. -/
  | set (names : List String)
  deriving Repr, DecidableEq

/-- A rule of a context. -/
structure Rule where
  pattern : String
  /-- The scopes of what is matched. -/
  scopes : String
  /-- The scopes of the groups of the pattern. -/
  parts : List (Nat × String)
  action : Action
  /-- A context whose rules come first in all contexts until those that are entered are left. -/
  override : Option String
  deriving Repr, DecidableEq

/-- A rule, or the rules of another context. -/
inductive Entry where
  | rule (r : Rule)
  | rulesOf (name : String)
  deriving Repr, DecidableEq

/-- How many scopes a context sets aside. -/
inductive Clearing where
  | some (count : Nat)
  | all
  deriving Repr, DecidableEq

/-- A context. -/
structure Context where
  /-- The scopes of what is read in the context, with what enters and leaves it. -/
  scopes : String
  /-- The scopes of what is read in the context. -/
  contentScopes : String
  clearing : Option Clearing
  /-- Whether the rules of the context `prototype` come first. -/
  takesPrototype : Bool
  entries : List Entry
  deriving Repr, DecidableEq

/-- A grammar: contexts with their names. Code is read in the context `main`. -/
abbrev Grammar := List (String × Context)

namespace Grammar

/-- A rule that stays in its context. -/
def mark (pattern scopes : String) : Entry :=
  .rule ⟨pattern, scopes, [], .stay, none⟩

/-- A rule that leaves its context. -/
def pop (pattern scopes : String) : Entry :=
  .rule ⟨pattern, scopes, [], .pop, none⟩

/-- A rule that enters contexts. -/
def push (pattern scopes : String) (names : List String) : Entry :=
  .rule ⟨pattern, scopes, [], .push names, none⟩

/-- A rule that leaves its context for others. -/
def set (pattern scopes : String) (names : List String) : Entry :=
  .rule ⟨pattern, scopes, [], .set names, none⟩

/-- The rules of another context. -/
def use (name : String) : Entry := .rulesOf name

/-- A context with no scopes. -/
def context (entries : List Entry) : Context := ⟨"", "", none, true, entries⟩

/-- Leaves the context where anything but white space follows. -/
def popElse : Entry := pop r"(?=\S)" ""

/-- Leaves the context at once. -/
def popNow : Entry := pop "" ""

end Grammar

/-- A rule with scopes for groups. -/
def Entry.parts (parts : List (Nat × String)) : Entry → Entry
  | .rule r => .rule { r with parts := parts }
  | e => e

/-- A rule that puts the rules of a context first. -/
def Entry.over (name : String) : Entry → Entry
  | .rule r => .rule { r with override := some name }
  | e => e

namespace Context

/-- A context with scopes for what is read in it, with what enters and leaves it. -/
def whole (scopes : String) (c : Context) : Context := { c with scopes := scopes }

/-- A context with scopes for what is read in it. -/
def content (scopes : String) (c : Context) : Context := { c with contentScopes := scopes }

/-- A context that sets scopes aside. -/
def clear (clearing : Clearing) (c : Context) : Context := { c with clearing := some clearing }

/-- A context in which the rules of `prototype` do not apply. -/
def bare (c : Context) : Context := { c with takesPrototype := false }

end Context

/-! ### Other names -/

/-- An action with other names for contexts. -/
def Action.rename (f : String → String) : Action → Action
  | .stay => .stay
  | .pop => .pop
  | .push names => .push (names.map f)
  | .set names => .set (names.map f)

/-- A rule with other names for contexts. -/
def Rule.rename (f : String → String) (r : Rule) : Rule :=
  { r with action := r.action.rename f, override := r.override.map f }

/-- A context with other names for those that it refers to. -/
def Context.rename (f : String → String) (c : Context) : Context :=
  { c with entries := c.entries.map fun
      | .rule r => .rule (r.rename f)
      | .rulesOf name => .rulesOf (f name) }

/-- A grammar for use within another one: the names of its contexts start with the name of the
language. Its rules of `prototype` are put into its contexts. -/
def Grammar.embedded (language : String) (g : Grammar) : Grammar :=
  let hasPrototype := (g.lookup "prototype").isSome
  g.map fun (name, c) =>
    let entries :=
      if hasPrototype && c.takesPrototype then Grammar.use "prototype" :: c.entries else c.entries
    (language ++ ":" ++ name,
      ({ c with entries := entries, takesPrototype := false }).rename (language ++ ":" ++ ·))

end DocPreview.Highlight
