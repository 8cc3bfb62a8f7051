import DocPreview.Artifact.Sanitize
import DocPreview.Script.Lowering
import DocPreview.Script.Reader.Grammar
import DocPreview.Script.Writer.Printer
import DocPreview.Text.Json

/-!
# Executable code

A sanitized body becomes executable code in two steps: its elements are written as calls, with
the imports of the element library dropped since the host provides it, and a call of the
document's entry point is put at the end.
-/

namespace DocPreview.Artifact

open Script Text

/-- The name of the element library that the host provides. -/
def frameworkModule : String := "react"

/-- The name of the module that an import reads from. -/
def importSource? : Node → Option String
  | .importDecl _ _ (.string _ source _) => some source
  | _ => none

/-- Whether an item imports the element library. -/
def isFrameworkImport (n : Node) : Bool := importSource? n = some frameworkModule

/-- Why a body cannot be lowered: the message, and the body. -/
structure LoweringFailure where
  message : String
  code : Text
  deriving Repr, DecidableEq

/-- A body with its elements written as calls. -/
def lower (body : Text) : Except LoweringFailure Text :=
  match Module.parse body with
  | .error f => .error ⟨f.message body, body⟩
  | .ok m =>
    let kept : Module := { m with body := m.body.filter fun n => !isFrameworkImport n }
    .ok kept.lowerElements.bareText

/-- Why a lowered body is no document. -/
inductive AssemblyFailure where
  | emptyCode
  | missingEntryPoint
  deriving Repr, DecidableEq

/-- The text of a failure. -/
def AssemblyFailure.message : AssemblyFailure → String
  | emptyCode => "transformed code is empty"
  | missingEntryPoint => "transformed code does not define MDXContent"

/-- The name of the function that makes the document. -/
def entryPoint : Text := "MDXContent".toList

/-- The statement that executable code ends with. -/
def entryPointCall : Text := "return MDXContent(\x7b components: \x7b\x7d \x7d);".toList

/-- A lowered body with a call of its entry point at the end. -/
def finish (body : Text) : Except AssemblyFailure Text :=
  let code := trimEnd body
  if (trim code).isEmpty then .error .emptyCode
  else if mentions entryPoint code then .ok (code ++ '\n' :: entryPointCall ++ ['\n'])
  else .error .missingEntryPoint

/-- Code that reports a message instead of showing a document. -/
def report (message : Text) : Text :=
  "console.error(".toList ++ Json.quote ("MDX Error: ".toList ++ message) ++ ");".toList

end DocPreview.Artifact
