import DocPreview.Artifact.Executable

/-!
# Modules as bodies of functions

The host evaluates a document as the body of a function. An export of a declaration becomes the
declaration, and an export of names that are declared anyway goes. Only the element library can
be imported.

## Main definitions

* `functionBody`: the items of a module as statements.
* `UnsupportedItem`: what has no form in the body of a function.
-/

namespace DocPreview.Artifact

open Script Text

/-- An item of a module that has no form in the body of a function. -/
inductive UnsupportedItem where
  | importFrom (source : String)
  | exportFrom (source : String)
  | anonymousDefault
  | defaultExpression
  deriving Repr, DecidableEq

/-- The words for an item. -/
def UnsupportedItem.words : UnsupportedItem → String
  | importFrom source => "import from \x60" ++ source ++ "\x60"
  | exportFrom source => "re-export from \x60" ++ source ++ "\x60"
  | anonymousDefault => "anonymous default export"
  | defaultExpression => "export of an expression"

/-- The text of a string. -/
def stringValue : Node → String
  | .string _ value _ => value
  | _ => ""

/-- An item of a module as statements, of which there is at most one. -/
def bodyItem (n : Node) : Except UnsupportedItem (List Node) :=
  match n with
  | .importDecl _ _ source =>
    if isFrameworkImport n then .ok [n] else .error (.importFrom (stringValue source))
  | .exportDecl _ decl => .ok [decl]
  | .exportDefaultDecl _ decl =>
    match decl with
    | .function _ (some _) _ _ _ _ | .classNode _ (some _) _ _ => .ok [decl]
    | _ => .error .anonymousDefault
  | .exportNamed _ _ none => .ok []
  | .exportNamed _ _ (some source) => .error (.exportFrom (stringValue source))
  | .exportAll _ source => .error (.exportFrom (stringValue source))
  | .exportDefaultExpr _ (.ident _ _) => .ok []
  | .exportDefaultExpr _ _ => .error .defaultExpression
  | n => .ok [n]

/-- The items of a module as statements. -/
def functionBody : List Node → Except UnsupportedItem (List Node)
  | [] => .ok []
  | n :: ns => do
    let ss ← bodyItem n
    return ss ++ (← functionBody ns)

end DocPreview.Artifact
