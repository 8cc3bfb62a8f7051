import DocPreview.Markup.Html
import DocPreview.Script.Provided
import DocPreview.Script.Writer.Parens
import DocPreview.Script.Writer.Printer

/-!
# Documents as components

A document becomes a module whose function `_createMdxContent` makes its elements and whose default
export `MDXContent` puts them into a layout. The layout is what the document exports as its
default, or else what the caller provides.

## Main definitions

* `Html.toNodes`: elements as parts of a script.
* `Layout.ofItem`: exports with the default export taken as the layout.
* `documentModule`: the module of a document, `moduleText` its text.
-/

namespace DocPreview.Markup

open Script (Span Scopes Needs)

/-! ### Elements -/

/-- An element, which closes itself if it is empty. -/
def elementNode (name : Script.Node) (attributes children : List Script.Node) : Script.Node :=
  .element Span.none name attributes children children.isEmpty

/-- The name of an element from its text. -/
def elementName (name : String) : Script.Node :=
  match Text.splitString '.' name with
  | first :: second :: rest =>
    (second :: rest).foldl (fun o p => .member Span.none o (.named p) false) (.named first)
  | _ =>
    match Text.splitString ':' name with
    | [space, own] => .spacedName Span.none space own
    | _ => .named name

/-- A property as an attribute. -/
def propertyNode : String × PropertyValue → Script.Node
  | (name, .isSet) => .attr Span.none (.named name) none
  | (name, .text value) => .attr Span.none (.named name) (some (.quoted (String.ofList value)))

namespace Html

mutual

/-- An element as parts of a script: what it needs is taken from the caller. -/
def toNodes : Html → StateM Scopes (List Script.Node)
  | .text s =>
    return if s.isEmpty then [] else [.container Span.none (some (.quoted (String.ofList s)))]
  | .element name properties children => do
    let name := Script.Node.named name
    modify (Scopes.noteElement name)
    let inner ← allToNodes children
    return [elementNode ((← get).nameFor false name) (properties.map propertyNode) inner]
  | .component none _ children => do
    return [.fragment Span.none (← allToNodes children)]
  | .component (some name) attributes children => do
    let name := elementName name
    modify (Scopes.noteElement name)
    let attributes ← Script.takeProvidedAll attributes
    let inner ← allToNodes children
    return [elementNode ((← get).nameFor true name) attributes inner]
  | .expression none => return [.container Span.none none]
  | .expression (some e) => do
    return [.container Span.none (some (← e.takeProvided))]
  | .module _ _ => return []

/-- Elements as parts of a script. -/
def allToNodes : List Html → StateM Scopes (List Script.Node)
  | [] => return []
  | h :: hs => do
    let n ← h.toNodes
    return n ++ (← allToNodes hs)

end

end Html

/-- Whether a part of a script is white space between elements. -/
def isSpaceNode : Script.Node → Bool
  | .container _ (some (.string _ value _)) => Html.isSpaceText value.toList
  | _ => false

/-- The elements of a document as one, without white space around them. -/
def contentNode (children : List Script.Node) : Script.Node :=
  let front := children.dropWhile isSpaceNode
  match (front.reverse.dropWhile isSpaceNode).reverse with
  | [.element s name attributes inner isSelfClosing] =>
    .element s name attributes inner isSelfClosing
  | inner => .fragment Span.none inner

/-! ### Layouts -/

/-- Where the layout of a document was exported, if it was. -/
abbrev Layout := Option (Point × Point)

namespace Layout

/-- An action that goes over the exports of a document. -/
abbrev Action := StateT Layout (Except Failure)

/-- Notes a layout at a place; there can be only one. -/
def note (source : Content) (span : Span) : Action Unit := do
  match ← get with
  | some (start, stop) => throw (Failure.at (source.pointAt span.lo) (.secondLayout start stop))
  | none => set (some (source.pointAt span.lo, source.pointAt span.hi) : Layout)

/-- The declaration of a layout. -/
def declare (value : Script.Node) : Script.Node :=
  .varDecl Span.none .const [.declarator Span.none (.named Needs.layoutName) (some value)]

/-- The name that an export gives away as the default one. -/
def defaultOf? : Script.Node → Option Script.Node
  | .exportSpecifier _ (.ident s name) (some (.ident _ "default")) => some (.ident s name)
  | _ => none

/-- An export list without the names exported as the default one, of which the last is the
layout. -/
def ofList (span : Span) (specifiers : List Script.Node) (origin : Option Script.Node)
    (layout : Script.Node) :
    List Script.Node :=
  let rest := specifiers.filter fun s => (defaultOf? s).isNone
  let kept := if rest.isEmpty then [] else [.exportNamed span rest origin]
  match origin with
  | some o =>
    kept ++ [.importDecl Span.none
      [.importNamed Span.none (some layout) (.named Needs.layoutName)] o]
  | none => kept ++ [declare layout]

/-- An item of a module, with what it exports as the default taken as the layout. -/
def ofItem (source : Content) (n : Script.Node) : Action (List Script.Node) := do
  match n with
  | .exportDefaultDecl span value | .exportDefaultExpr span value =>
    note source span
    return [declare value]
  | .exportNamed span specifiers origin =>
    let defaults := specifiers.filterMap defaultOf?
    defaults.forM fun d => note source d.span
    match defaults.getLast? with
    | some d => return ofList span specifiers origin d
    | none => return [n]
  | n => return [n]

/-- The imports and exports of a document with the layout taken out. -/
def ofItems (hs : List Html) : Action (List Script.Node) := do
  let items ← hs.mapM fun
    | .module items source => do
      let made ← items.mapM (ofItem source)
      pure made.flatten
    | _ => pure []
  return items.flatten

end Layout

/-! ### Modules -/

/-- The name of the function that makes the elements of a document. -/
def contentName : String := "_createMdxContent"

/-- The name of the function that makes a document. -/
def documentName : String := "MDXContent"

/-- A function declared by the program. -/
def declareFunction (name : String) (params body : List Script.Node) : Script.Node :=
  .function Span.none (some (.named name)) params body false false

/-- A return of a value. -/
def returnNode (value : Script.Node) : Script.Node := .returnStmt Span.none (some value)

/-- The function that makes the elements of a document. -/
def contentFunction (hs : List Html) : StateM Scopes Script.Node := do
  modify (Scopes.openFunction (some contentName) ["props"])
  let children ← Html.allToNodes hs
  let statements ← modifyGet Scopes.closeFunction
  return declareFunction contentName [.named "props"]
    (statements ++ [returnNode (contentNode children)])

/-- The function that puts the elements into the layout, if there is one. -/
def documentFunction (hasLayout : Bool) : Script.Node :=
  let layout := Script.Node.named Needs.layoutName
  let props := [Script.Node.spread Span.none (.named "props")]
  let content := elementNode (.named contentName) props []
  let inLayout := elementNode layout props [content]
  let plain := Script.Node.call Span.none (.named contentName) [.named "props"] false
  declareFunction documentName
    [.initialized Span.none (.named "props") (.object Span.none [])]
    [returnNode (if hasLayout then inLayout else .conditional Span.none layout inLayout plain)]

/-- The function that reports a missing component. -/
def reporterFunction : Script.Node :=
  let plus (a b : Script.Node) : Script.Node := .binary Span.none "+" a b
  let kind := Script.Node.conditional Span.none (.named "component") (.quoted "component")
    (.quoted "object")
  let ending := "\x60 to be defined: you likely forgot to import, pass, or provide it."
  let message := plus (plus (plus (plus (.quoted "Expected ") kind) (.quoted " \x60"))
    (.named "id")) (.quoted ending)
  declareFunction Needs.reporterName [.named "id", .named "component"]
    [.throwStmt Span.none (.construct Span.none (.named "Error") (some [message]))]

/-- The items of the module of a document, given its own imports and exports. -/
def moduleItems (items : List Script.Node) (hs : List Html) (hasLayout : Bool) : List Script.Node :=
  let make : StateM Scopes (List Script.Node) := do
    let items ← Script.takeProvidedAll items
    let content ← contentFunction hs
    let document ← (documentFunction hasLayout).takeProvided
    return items ++ [content, document]
  let (made, scopes) := make.run Scopes.start
  made ++ .exportDefaultExpr Span.none (.named documentName) ::
    if scopes.isChecking then [reporterFunction] else []

/-- The items of the module of a document. -/
def documentModule (text : Text) : Except Failure (List Script.Node) := do
  let (nodes, _) ← parseDocument text
  let hs ← Html.ofDocument nodes
  let (items, layout) ← (Layout.ofItems hs).run none
  return moduleItems items hs layout.isSome

/-- The text of the module of a document. -/
def moduleText (text : Text) : Except Failure Text := do
  let items ← documentModule text
  let module : Script.Module := ⟨Span.none, none, Script.allWithFewParens items, []⟩
  return module.bareText

end DocPreview.Markup
