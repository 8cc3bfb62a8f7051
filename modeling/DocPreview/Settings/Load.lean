import DocPreview.Files.Tree
import DocPreview.Settings.Basic
import DocPreview.Settings.Variable
import DocPreview.Text.Shown
import DocPreview.Toml.Document

/-!
# Loading settings

A document in TOML sets what the members of its tables `diagrams` and `compiler` say; other members
are passed over. Each table can also be an array of the values of its members, in their order. The
first member that is not of its type is a failure.

Settings come from one file: the one that is named, or else the nearest one that is called
`mdxview.toml` in the working directory or a directory around it. Without a file, the standard
holds. What is given for one run counts more, and the result must not violate a rule.

## Main definitions

* `Mismatch`: a value of a type that is not expected.
* `Settings.ofTable`, `Settings.ofToml`: the settings that a table and a text give.
* `Surroundings`: the files, the working directory and the variables of a run.
* `Settings.Failure`: why settings cannot be loaded.
* `Settings.chosenFile`: the file that counts.
* `Settings.load`: the settings with the path of their file.
-/

namespace DocPreview.Settings

open Toml

/-- A value of a type that is not expected, with its stretch if that is known. -/
structure Mismatch where
  message : String
  span : Option Span
  deriving Repr, DecidableEq

/-- A value with its stretch. -/
abbrev Placed := Value × Option Span

/-- The words for what a value is. -/
def found : Value → String
  | .string s => "string " ++ String.ofList (Text.shown s)
  | .integer n => "integer \x60" ++ toString n ++ "\x60"
  | .number x => "floating point \x60" ++ x.text ++ "\x60"
  | .boolean b => "boolean \x60" ++ (if b then "true" else "false") ++ "\x60"
  | .array _ | .tables _ => "sequence"
  | .dateTime | .table _ _ => "map"

/-- The mismatch of a value. -/
def mismatch (v : Placed) (expected : String) : Mismatch :=
  ⟨"invalid type: " ++ found v.1 ++ ", expected " ++ expected, v.2⟩

/-- A string. -/
def asString (v : Placed) : Except Mismatch Text :=
  match v.1 with
  | .string s => .ok s
  | _ => .error (mismatch v "a string")

/-- A truth value. -/
def asBoolean (v : Placed) : Except Mismatch Bool :=
  match v.1 with
  | .boolean b => .ok b
  | _ => .error (mismatch v "a boolean")

/-- A number of seconds. -/
def asSeconds (v : Placed) : Except Mismatch Nat :=
  match v.1 with
  | .integer n =>
    if n < 0 then
      .error ⟨"invalid value: integer \x60" ++ toString n ++ "\x60, expected u64", v.2⟩
    else .ok n.toNat
  | _ => .error (mismatch v "u64")

/-- A change of the settings by a value. -/
abbrev Setter := Settings → Placed → Except Mismatch Settings

/-- A failure with the stretch of a part around it if it has none of its own. -/
def located {α : Type} (span : Option Span) (x : Except Mismatch α) : Except Mismatch α :=
  x.mapError fun m => { m with span := m.span.orElse fun _ => span }

/-- Settings changed by the members of a table that have setters. -/
def setMembers (setters : List (String × Setter)) (s : Settings) (ms : Members) :
    Except Mismatch Settings :=
  ms.foldlM (fun s (key, v, span) =>
    match setters.find? fun p => p.1.toList = key.name with
    | some (_, set) => located (some key.span) (set s (v, span))
    | none => .ok s) s

/-- Settings changed by values, each by the setter of its position. -/
def setItems (setters : List (String × Setter)) (s : Settings) (items : List Placed) :
    Except Mismatch Settings :=
  (setters.zip items).foldlM (fun s ((_, set), v) => set s v) s

/-- Settings changed by a group of members. -/
def setGroup (name : String) (setters : List (String × Setter)) : Setter := fun s v =>
  located v.2 <|
    match v.1 with
    | .table _ ms => setMembers setters s ms
    | .array items | .tables items => setItems setters s items
    | .dateTime => .ok s
    | _ => .error (mismatch v ("struct " ++ name))

/-- What the members of `diagrams` set. -/
def diagramSetters : List (String × Setter) := [
  ("server_url", fun s v => do return { s with serverUrl := ← asString v }),
  ("timeout_secs", fun s v => do return { s with timeoutSecs := some (← asSeconds v) }),
  ("enabled", fun s v => do return { s with isRendering := ← asBoolean v })]

/-- What the members of `compiler` set. -/
def compilerSetters : List (String × Setter) := [
  ("highlight", fun s v => do return { s with isHighlighting := ← asBoolean v })]

/-- What the members of a document set. -/
def setters : List (String × Setter) := [
  ("diagrams", setGroup "DiagramsConfig" diagramSetters),
  ("compiler", setGroup "CompilerConfig" compilerSetters)]

/-- The settings that a table gives. -/
def ofTable (t : Table) : Except Mismatch Settings :=
  located t.span (setMembers setters standard t.members)

/-- The settings that a text in TOML gives. -/
def ofToml (text : Text) : Except Toml.Failure Settings := do
  let t ← parse text
  (ofTable t).mapError fun m => ⟨m.message, m.span⟩

end DocPreview.Settings

namespace DocPreview

/-- What a run finds around it. -/
structure Surroundings where
  tree : Files.Tree
  /-- The working directory. -/
  directory : Files.Place
  /-- The variables that are set. -/
  values : Variable.Assignment

namespace Settings

/-- Why settings cannot be loaded. -/
inductive Failure where
  /-- The file that is named is not there. -/
  | notFound (path : Files.Path)
  | unreadable (f : Files.Failure)
  | malformed (text : Text) (f : Toml.Failure)
  | unset (u : Variable.Unset)
  | invalid (v : Violation)

/-- The text of a failure. -/
def Failure.message : Failure → String
  | notFound path => "Configuration file not found: " ++ String.ofList path
  | unreadable f => "I/O error: " ++ f.message
  | malformed text f => "TOML parse error: " ++ f.show text
  | unset u => "Environment variable error in diagrams.server_url: " ++ u.message
  | invalid v => "Configuration error: " ++ v.message

/-- The name of the files with settings. -/
def fileName : Text := "mdxview.toml".toList

/-- The nearest file with settings, in a directory or one around it. -/
def nearestFile (t : Files.Tree) (directory : Files.Place) : Option Files.Place :=
  (List.range (directory.length + 1)).findSome? fun up =>
    let place := directory.take (directory.length - up) ++ [fileName]
    if (t.find? place).isSome then some place else none

/-- The path of the file that counts, if there is one. -/
def chosenFile (around : Surroundings) (path : Option Files.Path) :
    Except Failure (Option Files.Path) :=
  match path with
  | some p => if around.tree.exists? around.directory p then .ok (some p) else .error (.notFound p)
  | none => .ok ((nearestFile around.tree around.directory).map Files.Path.ofPlace)

/-- The settings that a text gives, with the references in the address of the server replaced. -/
def ofText (values : Variable.Assignment) (text : Text) : Except Failure Settings := do
  let s ← (ofToml text).mapError (.malformed text)
  let url ← (Variable.expand values s.serverUrl).mapError .unset
  return { s with serverUrl := url }

/-- The settings of a file. -/
def ofFile (around : Surroundings) (p : Files.Path) : Except Failure Settings := do
  let text ← (around.tree.read around.directory p).mapError .unreadable
  ofText around.values text

/-- Settings that violate no rule. -/
def validated (s : Settings) : Except Failure Settings :=
  match s.violation? with
  | some v => .error (.invalid v)
  | none => .ok s

/-- The settings for a run, with the path of the file that they come from. -/
def load (around : Surroundings) (path : Option Files.Path) (o : Overrides) :
    Except Failure (Settings × Option Files.Path) := do
  let chosen ← chosenFile around path
  let s ← match chosen with
    | some p => ofFile around p
    | none => pure standard
  return (← validated (s.override o), chosen)

end Settings

end DocPreview
