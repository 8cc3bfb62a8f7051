import DocPreview.Command.Run

/-!
# The program

Looks at the files that a command can use, runs the command on what was seen, and writes what it
leaves. Diagrams are rendered without a network.
-/

namespace DocPreview.Program

open Command

/-- The place that a path leads to if there are no links. -/
def placeOf (directory : Files.Place) (p : Files.Path) : Files.Place :=
  (Files.Path.steps p).foldl (fun place name =>
    if name = ['.'] then place
    else if name = ['.', '.'] then place.dropLast
    else place ++ [name]) (if Files.Path.isAbsolute p then [] else directory)

/-- The places that a command can use. -/
def placesOf (directory : Files.Place) (i : Invocation) : List Files.Place :=
  let named := i.document :: (i.settingsFile.toList ++ i.output.toList)
  let nearby := (List.range (directory.length + 1)).map fun size =>
    directory.take size ++ [Settings.fileName]
  directory :: named.map (placeOf directory) ++ nearby

/-- The path of a place as a string. -/
def pathOf (place : Files.Place) : String := String.ofList (Files.Path.ofPlace place)

/-- What is at a place. -/
def nodeAt (place : Files.Place) : IO (Option Files.Node) := do
  try
    return some (.file (← IO.FS.readBinFile (pathOf place)))
  catch
    | .noFileOrDirectory .. => return none
    | _ => return some .directory

/-- A tree with what is at a place and around it. -/
def lookAt (tree : Files.Tree) (place : Files.Place) : IO Files.Tree :=
  (List.range place.length).foldlM (fun (tree : Files.Tree) size => do
    match ← nodeAt (place.take (size + 1)) with
    | some node => return tree.put (place.take (size + 1)) node
    | none => return tree) tree

/-- The value of a variable. -/
def valueOf (name : Text) : IO (Option Text) := do
  return (← IO.getEnv (String.ofList name)).map String.toList

/-- The names of the variables that the settings of a run refer to. -/
def namesOf (around : Surroundings) (i : Invocation) : List Text :=
  match Settings.chosenFile around i.settingsFile with
  | .ok (some p) =>
    match around.tree.read around.directory p with
    | .ok text =>
      match Settings.ofToml text with
      | .ok s => Variable.names s.serverUrl
      | .error _ => []
    | .error _ => []
  | _ => []

/-- What a command finds around it. -/
def surroundings (i : Invocation) : IO Surroundings := do
  let directory := Files.Path.steps (toString (← IO.currentDir)).toList
  let tree ← (placesOf directory i).foldlM lookAt Files.Tree.empty
  let around : Surroundings := ⟨tree, directory, fun _ => none⟩
  let values ← (namesOf around i).mapM fun name => do return (name, ← valueOf name)
  return { around with values := fun name => (values.lookup name).join }

/-- Writes the file that a command leaves. -/
def save (around : Surroundings) (i : Invocation) (o : Outcome) : IO Unit :=
  match i.output with
  | none => return ()
  | some p =>
    match o.tree.node around.directory p with
    | .ok (.file content) => IO.FS.writeBinFile (String.ofList p) content
    | _ => return ()

/-- Tells the user something. -/
def tell (lines : List Text) : IO Unit :=
  lines.forM fun line => IO.eprintln (String.ofList line)

/-- Runs what is asked for, and gives the exit code. -/
def execute (i : Invocation) : IO UInt32 := do
  let around ← surroundings i
  let o := run .offline around i
  tell o.lines
  match o.failure with
  | some _ => return 1
  | none =>
    save around i o
    IO.print (String.ofList o.output)
    return 0

/-- How the program is used. -/
def usage : String :=
  "Usage: docpreview render|compile|diagrams FILE [-c FILE] [-o FILE] [-v] [--server-url URL]\n" ++
    "  [--timeout-secs SECONDS] [--no-diagrams] [--no-highlight]"

end DocPreview.Program

/-- Runs the program on its arguments. -/
def main (arguments : List String) : IO UInt32 := do
  let serverUrl ← DocPreview.Program.valueOf "MDXVIEW_SERVER_URL".toList
  match DocPreview.Command.Invocation.ofArguments serverUrl (arguments.map String.toList) with
  | .ok i => DocPreview.Program.execute i
  | .error .misuse =>
    IO.eprintln DocPreview.Program.usage
    return 2
  | .error .help =>
    IO.println DocPreview.Program.usage
    return 0
  | .error .version =>
    IO.println "docpreview 0.1.0"
    return 0
