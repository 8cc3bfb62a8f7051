import DocPreview.Text.Basic

/-!
# Scopes

A scope says what a stretch of code is, from the general to the special: `string.quoted.double`.
A tokenizer reads code from left to right and changes a stack of scopes on the way; what is in
force at a character is the stack there.

## Main definitions

* `Scope`: a scope as the list of its atoms.
* `ScopeStack`: the scopes in force, with those that are set aside.
* `ScopeOp`, `ScopeStack.apply`: the changes of a stack.
-/

namespace DocPreview.Highlight

open Text

/-- A scope, as the list of its atoms. -/
structure Scope where
  atoms : List Text
  deriving Repr, DecidableEq

/-- A text cut at each occurrence of a character. -/
def splitAtChar (c : Char) : Text → List Text
  | [] => [[]]
  | d :: r =>
    if d = c then [] :: splitAtChar c r
    else
      match splitAtChar c r with
      | [] => [[d]]
      | part :: parts => (d :: part) :: parts

namespace Scope

/-- How many atoms a scope can have. -/
def atomLimit : Nat := 8

/-- The scope with a name; dots at the end of the name do not count. -/
def ofName (name : Text) : Scope := ⟨splitAtChar '.' (dropEndWhile (· = '.') name)⟩

/-- The scope with a name, unless it has too many atoms. -/
def ofName? (name : Text) : Option Scope :=
  let scope := ofName name
  if scope.atoms.length ≤ atomLimit then some scope else none

/-- The name of a scope. -/
def name (s : Scope) : Text := List.intercalate ['.'] s.atoms

end Scope

/-- The scopes in force, and those that were set aside. -/
structure ScopeStack where
  /-- The scopes in force, the innermost first. -/
  scopes : List Scope
  /-- The groups of scopes that were set aside, the latest first. -/
  aside : List (List Scope)
  deriving Repr, DecidableEq

/-- A change of a stack of scopes. -/
inductive ScopeOp where
  /-- A scope is put on top. -/
  | push (s : Scope)
  /-- So many scopes go, or all if there are fewer. -/
  | pop (count : Nat)
  /-- So many scopes are set aside, or all if there are fewer. -/
  | setAside (count : Nat)
  /-- All scopes are set aside. -/
  | setAllAside
  /-- The scopes that were set aside last are put back on top. -/
  | restore
  deriving Repr, DecidableEq

namespace ScopeStack

/-- The stack at the start of a text. -/
def empty : ScopeStack := ⟨[], []⟩

/-- A stack after a change; nothing can be put back that was not set aside. -/
def apply (s : ScopeStack) : ScopeOp → Option ScopeStack
  | .push scope => some { s with scopes := scope :: s.scopes }
  | .pop count => some { s with scopes := s.scopes.drop count }
  | .setAside count => some ⟨s.scopes.drop count, s.scopes.take count :: s.aside⟩
  | .setAllAside => some ⟨[], s.scopes :: s.aside⟩
  | .restore =>
    match s.aside with
    | [] => none
    | group :: groups => some ⟨group ++ s.scopes, groups⟩

end ScopeStack

end DocPreview.Highlight
