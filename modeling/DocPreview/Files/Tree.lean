import DocPreview.Text.Basic

/-!
# Paths and trees of files

A path is a text that leads from a directory to a file or a directory, through names with slashes
between them. It starts at the root if its first character is a slash.

A tree holds files and directories at places. A path is followed from a directory step by step: each
step but the last must lead to a directory. Reading a file gives its text, and writing one gives the
tree with the file in it.

## Main definitions

* `Place`: where a file or a directory is, by the names that lead to it from the root.
* `Path.steps`: the names of a path.
* `Path.ofPlace`: the path that leads to a place from anywhere.
* `Node`, `Tree`, `Tree.find?`: what is at a place.
* `Failure`: why a path leads nowhere or a file cannot be used.
* `Tree.follow`: the place that a path leads to.
* `Tree.exists`, `Tree.read`, `Tree.write`: the use of files.
-/

namespace DocPreview.Files

open Text

/-- Where a file or a directory is: the names of the directories around it and its own, the
outermost one first. The root has no name. -/
abbrev Place := List Text

/-- A path as it is written. -/
abbrev Path := Text

namespace Path

/-- Whether a path starts at the root. -/
def isAbsolute (p : Path) : Bool := p.head? = some '/'

/-- Whether a path says by its end that it leads to a directory. -/
def endsInSlash (p : Path) : Bool := p.getLast? = some '/'

/-- The stretches of a text between slashes. -/
def stretches : Text → List Text
  | [] => [[]]
  | c :: r =>
    if c = '/' then [] :: stretches r
    else
      match stretches r with
      | [] => [[c]]
      | s :: ss => (c :: s) :: ss

/-- The names of a path, the first one first; those that stay where they are and those that go to
the directory around count. -/
def steps (p : Path) : List Text := (stretches p).filter fun s => !s.isEmpty

/-- The path that leads to a place from anywhere. -/
def ofPlace (place : Place) : Path :=
  if place.isEmpty then ['/'] else place.flatMap fun name => '/' :: name

/-- The size in bytes that a name can have. -/
def nameLimit : Nat := 255

/-- The size in bytes that a path can have. -/
def sizeLimit : Nat := 4095

end Path

/-- A file with its content, or a directory. -/
inductive Node where
  | file (content : ByteArray)
  | directory

/-- What is at each place. -/
structure Tree where
  nodes : List (Place × Node)

/-- Why a path leads nowhere, or a file cannot be used. -/
inductive Failure where
  | missing
  | isDirectory
  | notDirectory
  | nameTooLong
  | zeroInPath
  /-- The content of a file is no text in UTF-8. -/
  | notText
  deriving Repr, DecidableEq

/-- The words for a failure. -/
def Failure.message : Failure → String
  | missing => "No such file or directory (os error 2)"
  | isDirectory => "Is a directory (os error 21)"
  | notDirectory => "Not a directory (os error 20)"
  | nameTooLong => "File name too long (os error 36)"
  | zeroInPath => "file name contained an unexpected NUL byte"
  | notText => "stream did not contain valid UTF-8"

namespace Tree

/-- A tree without anything but its root. -/
def empty : Tree := ⟨[]⟩

/-- What is at a place. -/
def find? (t : Tree) (place : Place) : Option Node :=
  if place.isEmpty then some .directory
  else (t.nodes.find? fun n => n.1 = place).map (·.2)

/-- A tree with something put at a place. -/
def put (t : Tree) (place : Place) (n : Node) : Tree :=
  ⟨(place, n) :: t.nodes.filter fun m => m.1 ≠ place⟩

/-- A tree with something put at a place and directories made around it where nothing is. -/
def grow (t : Tree) (place : Place) (n : Node) : Tree :=
  let around (t : Tree) (size : Nat) : Tree :=
    let outer := place.take size
    if (t.find? outer).isSome then t else t.put outer .directory
  ((List.range place.length).foldl around t).put place n

/-- The place after one step from a place, which must be a directory. -/
def step (t : Tree) (place : Place) (name : Text) : Except Failure Place :=
  match t.find? place with
  | none => .error .missing
  | some (.file _) => .error .notDirectory
  | some .directory =>
    if name = ['.'] then .ok place
    else if name = ['.', '.'] then .ok place.dropLast
    else if byteSize name > Path.nameLimit then .error .nameTooLong
    else .ok (place ++ [name])

/-- The place that a path leads to from a directory. Nothing has to be there. -/
def follow (t : Tree) (directory : Place) (p : Path) : Except Failure Place :=
  if p.contains '\x00' then .error .zeroInPath
  else if p.isEmpty then .error .missing
  else if byteSize p > Path.sizeLimit then .error .nameTooLong
  else (Path.steps p).foldlM t.step (if Path.isAbsolute p then [] else directory)

/-- What a path leads to from a directory. -/
def node (t : Tree) (directory : Place) (p : Path) : Except Failure Node := do
  let place ← t.follow directory p
  match t.find? place with
  | none => throw .missing
  | some (.file content) => if Path.endsInSlash p then throw .notDirectory else return .file content
  | some .directory => return .directory

/-- Whether a path leads to something. -/
def exists? (t : Tree) (directory : Place) (p : Path) : Bool :=
  match t.node directory p with
  | .ok _ => true
  | .error _ => false

/-- The text that a file holds. -/
def textOf (content : ByteArray) : Except Failure Text :=
  match String.fromUTF8? content with
  | some s => .ok s.toList
  | none => .error .notText

/-- The text of the file that a path leads to. -/
def read (t : Tree) (directory : Place) (p : Path) : Except Failure Text := do
  match ← t.node directory p with
  | .file content => textOf content
  | .directory => throw .isDirectory

/-- A tree in which the file that a path leads to holds a text. The file is made if it is not
there, but no directory is. -/
def write (t : Tree) (directory : Place) (p : Path) (text : Text) : Except Failure Tree := do
  let place ← t.follow directory p
  if Path.endsInSlash p || (t.find? place matches some .directory) then throw .isDirectory
  return t.put place (.file (String.ofList text).toUTF8)

end Tree

end DocPreview.Files
