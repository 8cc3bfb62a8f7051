import DocPreview.Command.Arguments
import DocPreview.Preview.Basic
import DocPreview.Settings.Load

/-!
# Running a command

A command loads the settings, reads the document, does its job and writes the result to a file or to
the standard output. The first step that fails ends it; then nothing is written.

## Main definitions

* `Failure`: why a command fails.
* `Result`: what a job gives.
* `Outcome`: what a command leaves: texts on both outputs, a failure and the files.
* `run`: the outcome of a command.
-/

namespace DocPreview.Command

open Diagram Artifact

/-- Why a command fails. -/
inductive Failure where
  | settings (f : Settings.Failure)
  /-- A file cannot be read or written. -/
  | file (f : Files.Failure)
  /-- The document cannot be built. -/
  | build (f : BuildFailure)

/-- The text of a failure. -/
def Failure.message : Failure → String
  | settings f => f.message
  | file f => f.message
  | build f => f.message

/-- What a job gives: lines for the user, and a text. -/
structure Result where
  notes : List Text
  text : Text
  deriving Repr, DecidableEq

/-- The line for a diagram that failed. -/
def diagramWarning (f : Failed) : Text := ("Warning: " ++ f.message).toList

/-- The line for a document that cannot be built. -/
def buildWarning (f : BuildFailure) : Text := ("Warning: compilation failed: " ++ f.message).toList

/-- The line with the numbers of diagrams. -/
def diagramCount (s : Substitution) : Text :=
  (toString s.rendered.length ++ " diagram(s) rendered, " ++ toString s.failed.length ++
    " failed").toList

/-- What a job gives for a document. -/
def work (renderer : Renderer) (o : Preview.Options) (j : Job) (text : Text) :
    Except Failure Result :=
  match j with
  | .render =>
    let p := Preview.render renderer o text
    .ok ⟨p.failed.map diagramWarning ++ p.failure.toList.map buildWarning, p.message⟩
  | .compile => ((Preview.codeOf o text).mapError Failure.build).map (⟨[], ·⟩)
  | .diagrams =>
    let s := Preview.diagrams renderer o text
    .ok ⟨s.failed.map diagramWarning ++ [diagramCount s], s.text⟩

/-- What a command leaves. -/
structure Outcome where
  /-- The text on the standard output. -/
  output : Text
  /-- The lines for the user. -/
  notes : List Text
  failure : Option Failure
  /-- The files after the command. -/
  tree : Files.Tree

/-- The lines for the user with the one for the failure. -/
def Outcome.lines (o : Outcome) : List Text :=
  o.notes ++ o.failure.toList.map fun f => ("Error: " ++ f.message).toList

/-- A text that ends in a line break. -/
def endLine (s : Text) : Text := if s.getLast? = some '\n' then s else s ++ ['\n']

/-- The outcome of writing a result. -/
def deliver (around : Surroundings) (path : Option Files.Path) (r : Result) : Outcome :=
  match path with
  | none => ⟨endLine r.text, r.notes, none, around.tree⟩
  | some p =>
    match around.tree.write around.directory p r.text with
    | .ok tree => ⟨[], r.notes, none, tree⟩
    | .error f => ⟨[], r.notes, some (.file f), around.tree⟩

/-- What is asked for, before it is written. -/
def answer (transport : Transport) (around : Surroundings) (i : Invocation) :
    Except Failure Result := do
  let (s, _) ← (Settings.load around i.settingsFile i.overrides).mapError .settings
  let text ← (around.tree.read around.directory i.document).mapError .file
  work ((Server.ofUrl s.serverUrl).render transport) (.ofSettings s) i.job text

/-- The outcome of a command. -/
def run (transport : Transport) (around : Surroundings) (i : Invocation) : Outcome :=
  match answer transport around i with
  | .ok r => deliver around i.output r
  | .error f => ⟨[], [], some f, around.tree⟩

end DocPreview.Command
