import DocPreview.Script.Walk
import DocPreview.Script.Reader.Name
import DocPreview.Text.Basic

/-!
# Components that the caller provides

The functions that make a document take `props`, and `props.components` can replace the elements
in them. A tag such as `p`, which is not written by the author of the document, is taken from
there, with the tag itself as what is used otherwise; a component that no declaration in scope
gives must be there.

## Main definitions

* `Needs`: what a function takes from `props.components`, and `Needs.declarations`, the statements
  that do so.
* `Scopes`: what is declared where a walk through a script has come to.
* `Node.takeProvided`: a walk that gives functions the statements they need.
-/

namespace DocPreview.Script

/-! ### Names -/

mutual

/-- The names that a pattern binds. -/
def Node.boundNames : Node → List String
  | .ident _ name => [name]
  | .array _ items => boundNamesAll items
  | .object _ members => boundNamesAll members
  | .keyValue _ _ value => value.boundNames
  | .spread _ arg => arg.boundNames
  | .initialized _ target _ => target.boundNames
  | .declarator _ target _ => target.boundNames
  | .importDefault _ binding => binding.boundNames
  | .importAll _ binding => binding.boundNames
  | .importNamed _ _ binding => binding.boundNames
  | _ => []

/-- The names that patterns bind. -/
def boundNamesAll : List Node → List String
  | [] => []
  | n :: ns => n.boundNames ++ boundNamesAll ns

end

/-- Whether a text can be the name of a variable. -/
def isVariableName (s : String) : Bool :=
  match s.toList with
  | [] => false
  | c :: r => isNameStart c && r.all isNamePart

/-- Whether the name of an element stands for a tag and not for a component. -/
def isTagName (s : String) : Bool := s.toList.head?.any Char.isLower || !isVariableName s

/-- A name made by the program. -/
def Node.named (name : String) : Node := .ident Span.none name

/-- A string made by the program. -/
def Node.quoted (s : String) : Node := .string Span.none s none

/-- The member of an object with a name that need not be one of a variable. -/
def Node.memberNamed (object : Node) (name : String) : Node :=
  if isVariableName name then .member Span.none object (.named name) false
  else .index Span.none object (.quoted name) false

/-- The words of a name with dots between them, as members of members. -/
def Node.memberPath (path : String) : Node :=
  match Text.splitString '.' path with
  | [] => .named path
  | first :: rest => rest.foldl Node.memberNamed (.named first)

/-! ### Needs -/

/-- A name, perhaps with dots, that the caller must provide. -/
structure Reference where
  name : String
  /-- Whether the name is used as a component, and not only as an object with components. -/
  isComponent : Bool
  deriving Repr, DecidableEq

/-- What a function takes from `props.components`, each list in the order of first use. -/
structure Needs where
  tags : List String
  /-- The tags whose names are no names of variables. -/
  renamed : List String
  /-- The components, and the objects that have components as members. -/
  components : List String
  references : List Reference
  deriving Repr, DecidableEq

/-- A value put at the end of a list unless it is there. -/
def addOnce {α : Type} [DecidableEq α] (a : α) (as : List α) : List α :=
  if as.contains a then as else as ++ [a]

/-- References with one more. -/
def addReference (name : String) (isComponent : Bool) : List Reference → List Reference
  | [] => [⟨name, isComponent⟩]
  | r :: rs =>
    if r.name = name then ⟨name, r.isComponent || isComponent⟩ :: rs
    else r :: addReference name isComponent rs

/-- All starts of a list but the empty one, the shortest first. -/
def nonemptyStarts (as : List String) : List (List String) :=
  (List.range as.length).map fun i => as.take (i + 1)

namespace Needs

/-- Nothing is taken. -/
def none : Needs := ⟨[], [], [], []⟩

/-- Whether nothing is taken. -/
def isNone (n : Needs) : Bool := n.tags.isEmpty && n.components.isEmpty

/-- What is taken with one more tag. -/
def addTag (name : String) (n : Needs) : Needs :=
  { n with
    tags := addOnce name n.tags
    renamed := if isVariableName name then n.renamed else addOnce name n.renamed }

/-- What is taken with one more component, for which `isChecked` tells whether it must be
provided. -/
def addComponent (name : String) (isChecked : Bool) (n : Needs) : Needs :=
  { n with
    components := addOnce name n.components
    references := if isChecked then addReference name true n.references else n.references }

/-- What is taken with one more component that is a member of an object. -/
def addMember (path : List String) (n : Needs) : Needs :=
  let step (rs : List Reference) (start : List String) : List Reference :=
    addReference (".".intercalate start) (start.length = path.length) rs
  { n with
    components := (path.head?.map fun o => addOnce o n.components).getD n.components
    references := (nonemptyStarts path).foldl step n.references }

/-- The variable for a tag whose name is no name of a variable. -/
def variableFor (n : Needs) (tag : String) : String :=
  "_component" ++ toString (n.renamed.findIdx (· = tag))

/-- The name of the object with the components. -/
def componentsName : String := "_components"

/-- The name of the component around the whole document. -/
def layoutName : String := "MDXLayout"

/-- The name of the function that reports a missing component. -/
def reporterName : String := "_missingMdxReference"

/-- `props.components`. -/
def provided : Node := .memberNamed (.named "props") "components"

/-- The tags as they are used unless the caller provides something else. -/
def defaultTags (n : Needs) : Node :=
  .object Span.none (n.tags.map fun tag =>
    .keyValue Span.none (if isVariableName tag then .named tag else .quoted tag) (.quoted tag))

/-- The object from which components are taken. -/
def source (n : Needs) : Node :=
  if n.tags.isEmpty then .binary Span.none "||" provided (.object Span.none [])
  else .call Span.none (.memberPath "Object.assign") [n.defaultTags, provided] false

/-- The pattern that takes names out of the components. -/
def pattern (n : Needs) : Node :=
  .object Span.none (n.components.map fun name =>
    if name = layoutName then .keyValue Span.none (.named "wrapper") (.named name) else .named name)

/-- The declarations of what is taken. -/
def declarators (n : Needs) : List Node :=
  let declare (target value : Node) : Node := .declarator Span.none target (some value)
  let all := if n.tags.isEmpty then [] else [declare (.named componentsName) n.source]
  let renamed := n.renamed.map fun tag =>
    declare (.named (n.variableFor tag)) (.memberNamed (.named componentsName) tag)
  let named :=
    if n.components.isEmpty then []
    else [declare n.pattern (if n.tags.isEmpty then n.source else .named componentsName)]
  all ++ renamed ++ named

/-- The report of a name that is missing. -/
def check (r : Reference) : Node :=
  .ifStmt Span.none (.unary Span.none "!" (.memberPath r.name))
    (.exprStmt Span.none (.call Span.none (.named reporterName)
      [.quoted r.name, .literal Span.none (.bool r.isComponent)] false)) Option.none

/-- The statements that take what is needed. -/
def declarations (n : Needs) : List Node :=
  if n.isNone then []
  else .varDecl Span.none .const n.declarators :: n.references.map check

end Needs

/-! ### Scopes -/

/-- The names declared in a block, or in a function if it is marked as one. -/
structure Frame where
  isFunction : Bool
  /-- The name of the function. -/
  name : Option String
  names : List String
  deriving Repr, DecidableEq

/-- What is declared around a place of a script, the innermost first, with what the outermost
function around it needs. -/
structure Scopes where
  frames : List Frame
  needs : Needs
  /-- Whether some function checks what it takes. -/
  isChecking : Bool
  deriving Repr, DecidableEq

namespace Scopes

/-- The start of a module. -/
def start : Scopes := ⟨[⟨true, none, []⟩], Needs.none, false⟩

/-- Whether a name is declared. -/
def declares (s : Scopes) (name : String) : Bool := s.frames.any fun f => f.names.contains name

/-- Declares names in the innermost frame with a property. -/
def addTo (isMine : Frame → Bool) (names : List String) : List Frame → List Frame
  | [] => []
  | f :: fs =>
    if isMine f then { f with names := f.names ++ names } :: fs else f :: addTo isMine names fs

/-- Declares names in the innermost function. -/
def declareInFunction (names : List String) (s : Scopes) : Scopes :=
  { s with frames := addTo Frame.isFunction names s.frames }

/-- Declares names in the innermost block. -/
def declare (names : List String) (s : Scopes) : Scopes :=
  { s with frames := addTo (fun _ => true) names s.frames }

/-- Opens a block with names. -/
def openBlock (names : List String) (s : Scopes) : Scopes :=
  { s with frames := ⟨false, none, names⟩ :: s.frames }

/-- Opens a function with parameters; its name is declared around it. -/
def openFunction (name : Option String) (names : List String) (s : Scopes) : Scopes :=
  let outside := s.declareInFunction name.toList
  { outside with frames := ⟨true, name, names⟩ :: outside.frames }

/-- The name of the outermost function around, if it is one that takes `props`. -/
def takingFunction? (s : Scopes) : Option String :=
  match s.frames.reverse with
  | _ :: ⟨true, some name, _⟩ :: _ =>
    if name = "_createMdxContent" || name = "MDXContent" then some name else none
  | _ => none

/-- Closes a block. -/
def close (s : Scopes) : Scopes := { s with frames := s.frames.tail }

/-- Closes a function: the statements that it needs. -/
def closeFunction (s : Scopes) : List Node × Scopes :=
  if s.frames.length = 2 then
    (s.needs.declarations,
      { s.close with
        needs := Needs.none
        isChecking := s.isChecking || !s.needs.references.isEmpty })
  else ([], s.close)

/-- Notes what an element with a name needs. -/
def noteElement (name : Node) (s : Scopes) : Scopes :=
  match s.takingFunction? with
  | none => s
  | some function =>
    match name with
    | .ident _ id =>
      if isTagName id then { s with needs := s.needs.addTag id }
      else if s.declares id then s
      else
        let isChecked := !(id = Needs.layoutName && function = "MDXContent")
        { s with needs := s.needs.addComponent id isChecked }
    | .spacedName _ space id => { s with needs := s.needs.addTag (space ++ ":" ++ id) }
    | n =>
      let path := memberWords n
      if path.head?.any s.declares then s else { s with needs := s.needs.addMember path }
where
  /-- The names in a member of members. -/
  memberWords : Node → List String
    | .member _ o p _ => memberWords o ++ memberWords p
    | .ident _ id => [id]
    | _ => []

/-- The name by which an element is used; `isWritten` tells whether the author of the document
wrote it as a tag. -/
def nameFor (isWritten : Bool) (name : Node) (s : Scopes) : Node :=
  if s.takingFunction?.isNone then name
  else
    match name with
    | .ident _ id =>
      if !isTagName id then name
      else if !isVariableName id then .named (s.needs.variableFor id)
      else if isWritten then name
      else .memberNamed (.named Needs.componentsName) id
    | .spacedName _ space id => .named (s.needs.variableFor (space ++ ":" ++ id))
    | n => n

/-- The scopes when a walk comes to a node. -/
def enter (n : Node) (s : Scopes) : Scopes :=
  match n with
  | .element _ name _ _ _ => s.noteElement name
  | .importDecl _ specifiers _ => s.declareInFunction (boundNamesAll specifiers)
  | .varDecl _ kind declarators =>
    if kind = .var then s.declareInFunction (boundNamesAll declarators)
    else s.declare (boundNamesAll declarators)
  | .function _ name params _ _ _ =>
    s.openFunction (name.bind fun n => n.boundNames.head?) (boundNamesAll params)
  | .arrow _ params _ _ => s.openFunction none (boundNamesAll params)
  | .classNode _ (some name) _ _ => s.declareInFunction name.boundNames
  | .catchClause _ param _ => s.openBlock ((param.map Node.boundNames).getD [])
  | .block _ _ | .forStmt _ _ _ _ _ | .forIn _ _ _ _ | .forOf _ _ _ _ _ | .whileStmt _ _ _
  | .doWhile _ _ _ | .switchStmt _ _ _ => s.openBlock []
  | _ => s

/-- What a node becomes when a walk leaves it, and the scopes after it. -/
def leave (n : Node) (s : Scopes) : Node × Scopes :=
  match n with
  | .element span name attributes children isSelfClosing =>
    (.element span (s.nameFor false name) attributes children isSelfClosing, s)
  | .function span name params body isAsync isGenerator =>
    let (statements, s') := s.closeFunction
    (.function span name params (statements ++ body) isAsync isGenerator, s')
  | .arrow _ _ _ _ => (n, s.closeFunction.2)
  | .catchClause _ _ _ | .block _ _ | .forStmt _ _ _ _ _ | .forIn _ _ _ _ | .forOf _ _ _ _ _
  | .whileStmt _ _ _ | .doWhile _ _ _ | .switchStmt _ _ _ => (n, s.close)
  | _ => (n, s)

end Scopes

/-- Takes from `props.components` what the functions in a tree need. -/
def Node.takeProvided (n : Node) : StateM Scopes Node :=
  n.walkM (fun n => modify (Scopes.enter n)) (fun _ n => modifyGet (Scopes.leave n))

/-- Takes from `props.components` what the functions in trees need. -/
def takeProvidedAll (ns : List Node) : StateM Scopes (List Node) := ns.mapM Node.takeProvided

end DocPreview.Script
