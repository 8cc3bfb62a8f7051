import DocPreview.Script.Walk
import DocPreview.Text.Basic

/-!
# Elements as calls

A JSX element stands for a call that makes it. In the classic form this is
`factory(name, attributes, ...children)`, in the automatic form `_jsx(name, properties, key)`
with functions imported from the runtime of the element library. Comments `@jsx`, `@jsxFrag`,
`@jsxRuntime` and `@jsxImportSource` before the items of a module change the form.

## Main definitions

* `ElementStyle`: how elements are written as calls.
* `ElementStyle.ofModule`: the style that the comments of a module ask for.
* `Module.lowerElements`: a module with its elements written as calls.
-/

namespace DocPreview.Script

/-- How elements are written as calls. -/
structure ElementStyle where
  /-- Whether the functions are imported from the runtime. -/
  isAutomatic : Bool
  /-- The function that makes an element. -/
  factory : String
  /-- The component of a fragment. -/
  fragment : String
  /-- The library that holds the runtime. -/
  library : String
  deriving Repr, DecidableEq

/-- The style without any comments. -/
def ElementStyle.classic : ElementStyle :=
  ⟨false, "React.createElement", "React.Fragment", "react"⟩

/-! ### Comments that change the style -/

/-- Whether a word names a function, perhaps through the members of a name. -/
def isPath (s : String) : Bool :=
  match s.toList with
  | [] => false
  | c :: r =>
    (c.isAlpha || c = '_' || c = '$') && (c :: r).all fun d => d.isAlphanum || ['_', '$', '.'].contains d

/-- The words of a text. -/
def words (s : Text) : List String :=
  let step (c : Char) (acc : List (List Char)) : List (List Char) :=
    if Text.isBlank c then [] :: acc
    else
      match acc with
      | w :: ws => (c :: w) :: ws
      | [] => [[c]]
  ((s.foldr step [[]]).filter (!·.isEmpty)).map String.ofList

/-- A style with the settings that words ask for, each name being followed by its value. -/
def ElementStyle.applyWords (style : ElementStyle) : List String → ElementStyle
  | "@jsxRuntime" :: value :: rest =>
    let automatic :=
      if value = "automatic" then true else if value = "classic" then false else style.isAutomatic
    applyWords { style with isAutomatic := automatic } rest
  | "@jsxImportSource" :: value :: rest => applyWords { style with library := value } rest
  | "@jsxFrag" :: value :: rest =>
    applyWords (if isPath value then { style with fragment := value } else style) rest
  | "@jsx" :: value :: rest =>
    applyWords (if isPath value then { style with factory := value } else style) rest
  | _ :: _ :: rest => applyWords style rest
  | _ => style

/-- The words of a line of a comment that can change the style. -/
def settingWords (line : Text) : List String :=
  let s := Text.trim line
  let s := match s with
    | '*' :: r => Text.trim r
    | s => s
  match Text.after? "@jsx".toList s with
  | some _ => words s
  | none => []

/-- The words of a comment that can change the style. -/
def commentWords (c : Comment) : List (List String) :=
  if c.isLine then [] else (Text.lines c.text.toList).map settingWords

/-- Whether words set something. -/
def setsStyle : List String → Bool
  | "@jsxRuntime" :: value :: _ => value = "automatic" || value = "classic"
  | "@jsxImportSource" :: _ :: _ => true
  | "@jsxFrag" :: value :: _ => isPath value
  | "@jsx" :: value :: _ => isPath value
  | _ :: _ :: rest => setsStyle rest
  | _ => false

/-- A style with what the comments before a position ask for, and whether they ask for
something. -/
def ElementStyle.applyAt (style : ElementStyle) (comments : List PlacedComment) (place : Nat) :
    ElementStyle × Bool :=
  let mine := comments.filter fun c => c.isLeading && c.place = place
  let ws := (mine.map fun c => commentWords c.comment).flatten
  (ws.foldl applyWords style, ws.any setsStyle)

/-- A style with what the comments before the first item with such comments ask for. -/
def ElementStyle.applyFirst (style : ElementStyle) (comments : List PlacedComment) :
    List Nat → ElementStyle
  | [] => style
  | place :: places =>
    let (style', found) := style.applyAt comments place
    if found then style' else applyFirst style' comments places

/-- The style that the comments of a module ask for. -/
def ElementStyle.ofModule (m : Module) : ElementStyle :=
  let (style, _) := classic.applyAt m.comments m.span.lo
  style.applyFirst m.comments (m.body.map fun n => n.span.lo)

/-! ### Elements -/

/-- A name with members as an expression. -/
def pathExpr (path : String) : Node :=
  match Text.splitString '.' path with
  | [] => .ident Span.none path
  | first :: rest =>
    rest.foldl (fun e name => .member Span.none e (.ident Span.none name) false)
      (.ident Span.none first)

/-- A string made by the program. -/
def str (s : String) : Node := .string Span.none s none

/-- The name of an element as the thing it names: a string for a name in lower case. -/
def elementTarget : Node → Node
  | .ident span name =>
    if name.toList.head?.any Char.isLower then .string span name none else .ident span name
  | n => n

/-- The key of an attribute in an object. -/
def attributeKey : Node → Node
  | .ident span name =>
    if name.toList.contains '-' then .string span name none else .ident span name
  | .spacedName span space name => .string span (space ++ ":" ++ name) none
  | n => n

/-- The text of an attribute: each line break or tab with the blanks after it is one blank. -/
def foldAttribute : Bool → List Char → List Char
  | _, [] => []
  | afterBreak, c :: r =>
    if c = '\n' || c = '\r' || c = '\t' then ' ' :: foldAttribute true r
    else if c = ' ' && afterBreak then foldAttribute true r
    else if c.toNat = 8 then '\\' :: 'b' :: foldAttribute false r
    else if c.toNat = 12 then '\\' :: 'f' :: foldAttribute false r
    else if c.toNat = 11 then '\\' :: 'v' :: foldAttribute false r
    else if c.toNat = 0 then '\\' :: 'x' :: '0' :: '0' :: foldAttribute false r
    else c :: foldAttribute false r

/-- The value of an attribute. -/
def attributeValue : Option Node → Node
  | none => .literal Span.none (.bool true)
  | some (.string span value _) =>
    .string span (String.ofList (foldAttribute false value.toList)) none
  | some (.container _ (some e)) => e
  | some n => n

/-- A text between elements: lines are joined by a blank, without the blanks at their borders and
without empty lines. -/
def foldText (s : List Char) : List Char :=
  let content (l : Text) : Text :=
    match l.reverse with
    | '\n' :: '\r' :: r => r.reverse
    | '\n' :: r => r.reverse
    | _ => l
  let ls := (Text.lines (s.map fun c => if c = '\t' then ' ' else c)).map content
  let last := ls.length - 1
  let cut (p : Text × Nat) : Text :=
    let start := if p.2 = 0 then p.1 else p.1.dropWhile (· = ' ')
    if p.2 = last then start else Text.dropEndWhile (· = ' ') start
  let kept := (ls.zipIdx.map fun p => (cut p, p.2)).filter fun p => !p.1.isEmpty
  kept.foldl (fun acc p => if p.2 ≠ 0 && !acc.isEmpty then acc ++ ' ' :: p.1 else acc ++ p.1) []

/-- The children of an element as arguments. -/
def childArguments (children : List Node) : List Node :=
  children.filterMap fun
    | .text span value =>
      match foldText value.toList with
      | [] => none
      | s => some (.string span (String.ofList s) none)
    | .container _ none => none
    | .container _ (some e) => some e
    | n => some n

/-- The attributes as members of an object; a spread object gives its members. -/
def attributeMembers (attributes : List Node) : List Node :=
  attributes.flatMap fun
    | .attr span name value => [.keyValue span (attributeKey name) (attributeValue value)]
    | .spread _ (.object _ members) => members
    | n => [n]

/-- The attributes of an element in the classic form: nothing, one spread value or an object. -/
def classicAttributes : List Node → Node
  | [] => .literal Span.none .null
  | [.spread _ e] => e
  | attributes => .object Span.none (attributeMembers attributes)

/-- The functions of the runtime that a module uses. -/
structure RuntimeUse where
  one : Bool
  many : Bool
  fragment : Bool
  create : Bool
  deriving Repr, DecidableEq

/-- Whether an attribute is the key of an element. -/
def isKeyAttribute : Node → Bool
  | .attr _ (.ident _ "key") _ => true
  | _ => false

/-- Whether a key comes after spread attributes. -/
def keyAfterSpread : List Node → Bool
  | [] => false
  | .spread _ _ :: rest => rest.any isKeyAttribute
  | _ :: rest => keyAfterSpread rest

/-- The member that holds the children in the automatic form. -/
def childrenMember : List Node → List Node
  | [] => []
  | [.spread s e] => [.keyValue Span.none (.ident Span.none "children")
      (.array Span.none [.spread s e])]
  | [e] => [.keyValue Span.none (.ident Span.none "children") e]
  | es => [.keyValue Span.none (.ident Span.none "children") (.array Span.none es)]

/-- Whether children make an array. -/
def isManyChildren : List Node → Bool
  | [.spread _ _] => true
  | es => 1 < es.length

/-- A call of a runtime function, which is noted. -/
def runtimeCall (args : List Node) (children : List Node) : StateM RuntimeUse Node := do
  let name ← do
    if isManyChildren children then
      modify fun u => { u with many := true }
      pure "_jsxs"
    else
      modify fun u => { u with one := true }
      pure "_jsx"
  return .call Span.none (.ident Span.none name) args false

/-- An element whose parts have been lowered, as a call. -/
def lowerElement (style : ElementStyle) (name : Node) (attributes children : List Node) :
    StateM RuntimeUse Node := do
  let target := elementTarget name
  let args := childArguments children
  if !style.isAutomatic then
    return .call Span.none (pathExpr style.factory)
      (target :: classicAttributes attributes :: args) false
  if keyAfterSpread attributes then
    modify fun u => { u with create := true }
    return .call Span.none (.ident Span.none "_createElement")
      (target :: .object Span.none (attributeMembers attributes) :: args) false
  let key := (attributes.filter isKeyAttribute).getLast?
  let members := attributeMembers (attributes.filter (!isKeyAttribute ·))
  let props := Node.object Span.none (members ++ childrenMember args)
  let keyArgs : List Node := match key with
    | some (.attr _ _ value) => [attributeValue value]
    | _ => []
  runtimeCall (target :: props :: keyArgs) args

/-- A fragment whose parts have been lowered, as a call. -/
def lowerFragment (style : ElementStyle) (children : List Node) : StateM RuntimeUse Node := do
  let args := childArguments children
  if !style.isAutomatic then
    return .call Span.none (pathExpr style.factory)
      (pathExpr style.fragment :: .literal Span.none .null :: args) false
  modify fun u => { u with fragment := true }
  runtimeCall [.ident Span.none "_Fragment", .object Span.none (childrenMember args)] args

/-- Whether a node is an element or a fragment. -/
def Node.isElement : Node → Bool
  | .element _ _ _ _ _ | .fragment _ _ => true
  | _ => false

/-- A node with its parts lowered, itself lowered. Parentheses around an element go. -/
def lowerNode (style : ElementStyle) (before lowered : Node) : StateM RuntimeUse Node :=
  match before, lowered with
  | _, .element _ name attributes children _ => lowerElement style name attributes children
  | _, .fragment _ children => lowerFragment style children
  | .paren _ e, .paren s e' => return if e.isElement then e' else .paren s e'
  | _, n => return n

/-- An import of functions of the runtime. -/
def runtimeImport (source : String) (names : List (String × String)) : Node :=
  .importDecl Span.none
    (names.map fun (imported, binding) =>
      .importNamed Span.none (some (.ident Span.none imported)) (.ident Span.none binding))
    (str source)

/-- The imports that a module needs for the functions it uses. -/
def runtimeImports (style : ElementStyle) (u : RuntimeUse) : List Node :=
  let names :=
    (if u.one then [("jsx", "_jsx")] else []) ++ (if u.many then [("jsxs", "_jsxs")] else []) ++
      (if u.fragment then [("Fragment", "_Fragment")] else [])
  (if names.isEmpty then [] else [runtimeImport (style.library ++ "/jsx-runtime") names]) ++
    (if u.create then [runtimeImport style.library [("createElement", "_createElement")]] else [])

/-- Whether an item is a directive. -/
def Node.isDirective : Node → Bool
  | .exprStmt _ (.string _ _ _) => true
  | _ => false

/-- A module with its elements written as calls. -/
def Module.lowerElements (m : Module) : Module :=
  let style := ElementStyle.ofModule m
  let (body, use) := (replaceAllM (lowerNode style) m.body).run ⟨false, false, false, false⟩
  let directives := body.takeWhile Node.isDirective
  { m with body := directives ++ runtimeImports style use ++ body.drop directives.length }

end DocPreview.Script
