import DocPreview.Artifact.Body
import DocPreview.Artifact.Executable
import DocPreview.Artifact.Prepare
import DocPreview.Artifact.Sanitize
import DocPreview.Document.FrontMatter
import DocPreview.Markup.Component
import DocPreview.Yaml.Value

/-!
# Compiling and building a document

A document becomes the body of a function that returns the metadata of the document and the
component that shows it. The steps are the metadata, the preparation of the text, the module of
its markup, and the body of a function that stands for the module. Front matter holds the metadata
as a value in YAML; front matter without a value is an empty mapping.

The artifact of a document is then sanitized, lowered and finished. The first step that fails ends
the build. A failed build can be reported by code that shows the failure.
-/

namespace DocPreview.Document

open Text

/-- The metadata that a text in YAML holds. -/
def metadata (yaml : Text) : Except Yaml.ValueFailure Json :=
  if yaml.all isBlank then .ok (.object [])
  else
    (Yaml.parse yaml).map fun v =>
      match v with
      | .null => .object []
      | v => v

/-- The metadata of a document. -/
def FrontMatter.metadata (f : FrontMatter) : Except Yaml.ValueFailure Json :=
  Document.metadata f.yaml

end DocPreview.Document

namespace DocPreview.Artifact

open Script Text Document

/-- Why a document cannot be compiled. -/
inductive CompileFailure where
  /-- The front matter is no value. -/
  | frontMatter (f : Yaml.ValueFailure)
  /-- The markup is malformed. -/
  | markup (f : Markup.Failure)
  /-- The module of the markup cannot be read, with the message for it. -/
  | script (message : String)
  /-- An item of the module has no form in the body of a function. -/
  | unsupported (item : UnsupportedItem)

/-- The text of a failure. -/
def CompileFailure.message : CompileFailure → String
  | frontMatter f => "invalid front matter: " ++ f.message
  | markup f => f.message
  | script message => "failed to parse compiled module: " ++ message
  | unsupported item => "unsupported module syntax: " ++ item.words

/-- The metadata of a text, which is empty without front matter. -/
def metadataOf (text : Text) : Except CompileFailure Json :=
  match frontMatter? text with
  | none => .ok (.object [])
  | some f => f.metadata.mapError .frontMatter

/-- The text of a module as the body of a function. -/
def bodyText (moduleText : Text) : Except CompileFailure Text :=
  match Module.parse moduleText with
  | .error f => .error (.script (f.message moduleText))
  | .ok m =>
    match functionBody m.body with
    | .error item => .error (.unsupported item)
    | .ok body => .ok (Module.text { m with body })

/-- The artifact with these metadata, as the text of a value, and this body. -/
def wrap (metadata body : Text) : Text :=
  "\"use strict\";\nconst frontmatter = ".toList ++ metadata ++ ";\n".toList ++ trimEnd body ++
    "\nreturn \x7bfrontmatter, default: MDXContent\x7d;\n".toList

/-- The artifact of a document. -/
def compile (isHighlighting : Bool) (text : Text) : Except CompileFailure Text := do
  let metadata ← metadataOf text
  let code ← (Markup.moduleText (prepare isHighlighting text)).mapError .markup
  return wrap metadata.compact.toList (← bodyText code)

end DocPreview.Artifact

namespace DocPreview.Artifact

/-- Why a document cannot be built. -/
inductive BuildFailure where
  | compile (f : CompileFailure)
  | lowering (f : LoweringFailure)
  | assembly (f : AssemblyFailure)

/-- The text of a failure. -/
def BuildFailure.message : BuildFailure → String
  | compile f => f.message
  | lowering f => f.message
  | assembly f => f.message

/-- An artifact made executable. -/
def assemble (artifact : Text) : Except BuildFailure Text := do
  let lowered ← (lower (sanitize artifact)).mapError .lowering
  (finish lowered).mapError .assembly

/-- The executable code of a document. -/
def build (isHighlighting : Bool) (text : Text) : Except BuildFailure Text := do
  assemble (← (compile isHighlighting text).mapError .compile)

/-- Executable code for a document in any case, and why it is a report if it is one. -/
def buildOrReport (isHighlighting : Bool) (text : Text) : Text × Option BuildFailure :=
  match build isHighlighting text with
  | .ok code => (code, none)
  | .error f => (report f.message.toList, some f)

end DocPreview.Artifact
