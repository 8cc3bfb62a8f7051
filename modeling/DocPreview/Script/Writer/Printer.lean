import DocPreview.Script.Writer.Page

/-!
# Scripts as text

A tree is written with one statement on a line, four blanks for an indentation, and literals as
they were read. Objects, arrays and blocks that are not empty take a line for each of their
parts; patterns and elements stay on one line.

## Main definitions

* `Node.write`: a node in its place, as an expression, a statement or a pattern.
* `Module.text`, `Module.bareText`: a module with and without its comments.
-/

namespace DocPreview.Script

open Writer

/-- A literal as written. -/
def Literal.text : Literal → String
  | .null => "null"
  | .bool b => if b then "true" else "false"
  | .number raw | .bigInt raw | .regex raw => raw

/-- Whether a blank must stand between a unary operator and its operand. -/
def needsBlank (op : String) : Node → Bool
  | .unary _ o _ => (op = "+" && o = "+") || (op = "-" && o = "-")
  | .update _ o true _ => (op = "+" && o = "++") || (op = "-" && o = "--")
  | _ => false

/-- A unary operator with the blank after it. -/
def unaryText (op : String) (arg : Node) : String :=
  if ["typeof", "void", "delete"].contains op || needsBlank op arg then op ++ " " else op

/-- Whether a statement is a block, which ends its own line with nothing after it. -/
def Node.isBlock : Node → Bool
  | .block _ _ => true
  | _ => false

/-- The words before the name of a function. -/
def functionWords (isAsync isGenerator : Bool) : String :=
  (if isAsync then "async function" else "function") ++ (if isGenerator then "*" else "")

/-- The words before the key of a method. -/
def methodWords (kind : MethodKind) (isAsync isGenerator : Bool) : String :=
  match kind with
  | .getter => "get "
  | .setter => "set "
  | .method => (if isAsync then "async " else "") ++ (if isGenerator then "*" else "")

/-- Writes a block of statements. -/
def printBlock (body : List (Writer Unit)) : Writer Unit :=
  if body.isEmpty then put "\x7b\x7d" else lined "\x7b" "\x7d" "" body

/-- Writes the members of an object or the elements of an array. -/
def printParts (opener closer : String) (parts : List (Writer Unit)) : Writer Unit :=
  if parts.isEmpty then put (opener ++ closer) else lined opener closer "," parts

/-- Writes the names of an import or export list. -/
def printNames (names : List (Writer Unit)) : Writer Unit := do
  put "\x7b "
  commas names
  if !names.isEmpty then
    put " "
  put "\x7d"

/-- Writes the parameters and the body of a function. -/
def printFunctionRest (params body : List (Writer Unit)) : Writer Unit := do
  put "("
  commas params
  put ") "
  printBlock body

/-- Writes the texts and the expressions of a template in turn. -/
def printTemplate : List String → List (Writer Unit) → Writer Unit
  | t :: ts, e :: es => do
    put t
    put "$\x7b"
    e
    put "\x7d"
    printTemplate ts es
  | t :: _, [] => put t
  | [], _ => return ()

/-- Writes a text and ends its statement. -/
def putEnd (w : Writer Unit) : Writer Unit := do
  w
  put ";"

/-- Writes what stands in a statement, the comments after it and the end of its line. -/
def printStatement (span : Span) (w : Writer Unit) : Writer Unit := do
  leading span.lo
  w
  trailing span.hi
  line

/-- Writes an expression with its comments. -/
def printExpr (span : Span) (w : Writer Unit) : Writer Unit := do
  leading span.lo
  w
  trailing span.hi

/-- Writes items with a text before each of them. -/
def printEach (text : String) (items : List (Writer Unit)) : Writer Unit :=
  items.forM fun w => do
    put text
    w

/-- The place in which a node is written. -/
inductive Place where
  /-- An expression or a part of one. -/
  | expr
  /-- A statement, which takes its end and a line of its own. -/
  | stmt
  /-- A pattern. -/
  | target
  /-- A member of an object. -/
  | member
  /-- An attribute or a child of an element. -/
  | markup
  /-- The parameters and the body of a method; `head` writes what stands before them, given
  whether the method is asynchronous and whether it is a generator. -/
  | method (head : Bool → Bool → Writer Unit)

namespace Place

/-- The place of the parts of a pattern or an expression. -/
def part : Place → Place
  | target => target
  | _ => expr

end Place

/-- Writes an expression, or a declaration on a line of its own. -/
def printIn (place : Place) (span : Span) (w : Writer Unit) : Writer Unit :=
  match place with
  | .stmt => printStatement span w
  | _ => printExpr span w

/-- Writes what stands before the parameters of a method. -/
def methodHead (place : Place) (kind : MethodKind) (key : Writer Unit)
    (isAsync isGenerator : Bool) : Writer Unit := do
  put (methodWords kind isAsync isGenerator)
  key
  match place with
  | .member => put " "
  | _ => return ()

/-- Whether an import stands between braces. -/
def isBracedImport : Node → Bool
  | .importNamed _ _ _ => true
  | _ => false

/-- Whether an export is one of all names as the members of one. -/
def isSpaceExport : Node → Bool
  | .exportSpace _ _ => true
  | _ => false

/-- Writes imports, given those outside the braces and those between them. -/
def printImports (outside braced : List (Writer Unit)) : Writer Unit :=
  commas (if braced.isEmpty then outside else outside ++ [printNames braced])

mutual

/-- Writes a node in a place. -/
def Node.write : Place → Node → Writer Unit
  | _, .hole => return ()
  | _, .ident s name => printExpr s (put name)
  | _, .privateName s name => printExpr s (put ("#" ++ name))
  | _, .this s => printExpr s (put "this")
  | _, .super s => printExpr s (put "super")
  | _, .importWord s => printExpr s (put "import")
  | _, .metaProperty s text => printExpr s (put text)
  | _, .literal s value => printExpr s (put value.text)
  | _, .string s value raw => printExpr s (put (raw.getD (quoteScript value)))
  | _, .template s texts exprs => printExpr s do
    put "\x60"
    printTemplate texts (writeAll .expr exprs)
    put "\x60"
  | _, .tagged s tag body => printExpr s do
    tag.write .expr
    body.write .expr
  | .target, .array s items => printExpr s do
    put "["
    commas (writeAll .target items)
    put "]"
  | _, .array s items => printExpr s (printParts "[" "]" (writeAll .expr items))
  | .target, .object s members => printExpr s (printNames (writeAll .target members))
  | _, .object s members => printExpr s (printParts "\x7b" "\x7d" (writeAll .member members))
  | place, .keyValue _ key value => do
    key.write .expr
    put ": "
    value.write place.part
  | _, .computedKey _ key => do
    put "["
    key.write .expr
    put "]"
  | place, .method s kind isStatic key fn => printExpr s do
    if isStatic then
      put "static "
    fn.write (.method (methodHead place kind (key.write .expr)))
  | .markup, .spread s arg => printExpr s do
    put "\x7b..."
    arg.write .expr
    put "\x7d"
  | place, .spread s arg => printExpr s do
    put "..."
    arg.write place.part
  | _, .initialized _ target value => do
    target.write .target
    put " = "
    value.write .expr
  | .method head, .function _ _ params body isAsync isGenerator => do
    head isAsync isGenerator
    printFunctionRest (writeAll .target params) (writeAll .stmt body)
  | place, .function s name params body isAsync isGenerator => printIn place s do
    put (functionWords isAsync isGenerator)
    after " " (writeOption .expr name)
    printFunctionRest (writeAll .target params) (writeAll .stmt body)
  | _, .arrow s params body isAsync => printExpr s do
    put (if isAsync then "async (" else "(")
    commas (writeAll .target params)
    put ")=>"
    if body.isBlock then body.write .expr else indented (body.write .expr)
  | place, .classNode s name base members => printIn place s do
    put "class"
    after " " (writeOption .expr name)
    after " extends " (writeOption .expr base)
    put " "
    lined "\x7b" "\x7d" "" (writeAll .expr members)
  | _, .field s isStatic key value => printExpr s do
    if isStatic then
      put "static "
    key.write .expr
    after " = " (writeOption .expr value)
    put ";"
  | _, .staticBlock s body => printExpr s do
    put "static"
    printBlock (writeAll .stmt body)
  | _, .unary s op arg => printExpr s do
    put (unaryText op arg)
    arg.write .expr
  | _, .update s op isBefore arg => printExpr s do
    if isBefore then
      put op
    arg.write .expr
    if !isBefore then
      put op
  | _, .binary s op left right => printExpr s do
    left.write .expr
    put (" " ++ op ++ " ")
    right.write .expr
  | _, .assign s op target value => printExpr s do
    target.write .target
    put (" " ++ op ++ " ")
    value.write .expr
  | _, .conditional s test yes no => printExpr s do
    test.write .expr
    put " ? "
    yes.write .expr
    put " : "
    no.write .expr
  | _, .call s callee args isOptional => printExpr s do
    callee.write .expr
    put (if isOptional then "?.(" else "(")
    commas (writeAll .expr args)
    put ")"
  | _, .construct s callee args => printExpr s do
    put "new "
    callee.write .expr
    match args with
    | none => pure ()
    | some as => do
      put "("
      commas (writeAll .expr as)
      put ")"
  | _, .member s object property isOptional => printExpr s do
    object.write .expr
    put (if isOptional then "?." else ".")
    property.write .expr
  | _, .index s object property isOptional => printExpr s do
    object.write .expr
    put (if isOptional then "?.[" else "[")
    property.write .expr
    put "]"
  | _, .sequence s exprs => printExpr s (commas (writeAll .expr exprs))
  | _, .paren s expr => printExpr s do
    put "("
    expr.write .expr
    put ")"
  | _, .yieldExpr s arg isDelegate => printExpr s do
    put (if isDelegate then "yield*" else "yield")
    after " " (writeOption .expr arg)
  | _, .awaitExpr s arg => printExpr s do
    put "await "
    arg.write .expr
  | _, .element _ name attributes children selfClosing => do
    put "<"
    name.write .expr
    printEach " " (writeAll .markup attributes)
    if selfClosing then
      put "/>"
    else
      put ">"
      separated (return ()) (writeAll .markup children)
      put "</"
      name.write .expr
      put ">"
  | _, .fragment _ children => do
    put "<>"
    separated (return ()) (writeAll .markup children)
    put "</>"
  | _, .spacedName _ space name => put (space ++ ":" ++ name)
  | _, .attr _ name value => do
    name.write .expr
    after "=" (writeOption .expr value)
  | _, .text _ value => put value
  | _, .container _ expr => do
    put "\x7b"
    after "" (writeOption .expr expr)
    put "\x7d"
  | _, .exprStmt s expr => printStatement s (putEnd (expr.write .expr))
  | _, .block s body => do
    leading s.lo
    printBlock (writeAll .stmt body)
  | _, .empty s => printStatement s (put ";")
  | _, .debuggerStmt s => printStatement s (put "debugger;")
  | _, .withStmt s object body => printStatement s do
    put "with("
    object.write .expr
    put ")"
    body.write .stmt
  | _, .returnStmt s arg => printStatement s do
    put "return"
    after " " (writeOption .expr arg)
    put ";"
  | _, .labeled s label body => printStatement s do
    label.write .expr
    put ": "
    body.write .stmt
  | _, .breakStmt s label => printStatement s do
    put "break"
    after " " (writeOption .expr label)
    put ";"
  | _, .continueStmt s label => printStatement s do
    put "continue"
    after " " (writeOption .expr label)
    put ";"
  | _, .ifStmt s test yes no => printStatement s do
    put "if ("
    test.write .expr
    put ") "
    yes.write .stmt
    match no with
    | none => pure ()
    | some n => do
      put (if yes.isBlock then " else " else "else ")
      n.write .stmt
  | _, .switchStmt s subject cases => printStatement s do
    put "switch("
    subject.write .expr
    put ")"
    lined "\x7b" "\x7d" "" (writeAll .expr cases)
  | _, .switchCase s test body => do
    leading s.lo
    match test with
    | none => put "default:"
    | some t => do
      put "case "
      t.write .expr
      put ":"
    line
    indented (separated line (writeAll .stmt body))
  | _, .throwStmt s arg => printStatement s do
    put "throw "
    arg.write .expr
    put ";"
  | _, .tryStmt s body handler finalizer => printStatement s do
    put "try "
    body.write .expr
    after " " (writeOption .expr handler)
    after " finally" (writeOption .expr finalizer)
  | _, .catchClause s param body => do
    leading s.lo
    put "catch "
    match param with
    | none => pure ()
    | some p => do
      put "("
      p.write .target
      put ")"
    put " "
    body.write .expr
  | _, .whileStmt s test body => printStatement s do
    put "while("
    test.write .expr
    put ")"
    body.write .stmt
  | _, .doWhile s body test => printStatement s do
    put "do "
    body.write .stmt
    put "while ("
    test.write .expr
    put ")"
  | _, .forStmt s start test step body => printStatement s do
    put "for("
    after "" (writeOption .expr start)
    put ";"
    after " " (writeOption .expr test)
    put ";"
    after " " (writeOption .expr step)
    put ")"
    body.write .stmt
  | _, .forIn s target object body => printStatement s do
    put "for("
    target.write .target
    put " in "
    object.write .expr
    put ")"
    body.write .stmt
  | _, .forOf s isAwait target object body => printStatement s do
    put (if isAwait then "for await (" else "for (")
    target.write .target
    put " of "
    object.write .expr
    put ")"
    body.write .stmt
  | .stmt, .varDecl s kind declarators => printStatement s do
    put (kind.word ++ " ")
    commas (writeAll .expr declarators)
    put ";"
  | _, .varDecl s kind declarators => do
    leading s.lo
    put (kind.word ++ " ")
    commas (writeAll .expr declarators)
  | _, .declarator s target value => do
    leading s.lo
    target.write .target
    after " = " (writeOption .expr value)
  | _, .importDecl s specifiers source => printStatement s do
    put "import "
    let items := writeAll .expr specifiers
    let braced := specifiers.map isBracedImport
    let named := ((items.zip braced).filter (·.2)).map (·.1)
    let others := ((items.zip braced).filter (!·.2)).map (·.1)
    printImports others named
    if !specifiers.isEmpty then
      put " from "
    source.write .expr
    put ";"
  | _, .importDefault _ binding => binding.write .expr
  | _, .importAll _ binding => do
    put "* as "
    binding.write .expr
  | _, .importNamed _ imported binding => do
    match imported with
    | none => pure ()
    | some i => do
      i.write .expr
      put " as "
    binding.write .expr
  | _, .exportDecl s decl => printStatement s do
    put "export "
    decl.write .stmt
  | _, .exportNamed s specifiers source => printStatement s do
    put "export "
    let items := writeAll .expr specifiers
    if specifiers.any isSpaceExport then commas items else printNames items
    after " from " (writeOption .expr source)
    put ";"
  | _, .exportSpace _ name => do
    put "* as "
    name.write .expr
  | _, .exportSpecifier _ localName exported => do
    localName.write .expr
    after " as " (writeOption .expr exported)
  | _, .exportAll s source => printStatement s do
    put "export * from "
    source.write .expr
    put ";"
  | _, .exportDefaultDecl s decl => printStatement s do
    put "export default "
    decl.write .expr
  | _, .exportDefaultExpr s expr => printStatement s do
    put "export default "
    expr.write .expr
    put ";"

/-- Writes nodes in a place. -/
def writeAll : Place → List Node → List (Writer Unit)
  | _, [] => []
  | place, n :: ns => n.write place :: writeAll place ns

/-- Writes a node that may be missing in a place. -/
def writeOption : Place → Option Node → Option (Writer Unit)
  | _, none => none
  | place, some n => some (n.write place)

end

/-- Writes the items of a module. -/
def Module.write (m : Module) : Writer Unit := do
  match m.shebang with
  | none => pure ()
  | some text => do
    put ("#!" ++ text)
    line
  (writeAll .stmt m.body).forM id
  trailing m.span.hi

/-- A module as text with the given comments. -/
def Module.textWith (comments : List PlacedComment) (m : Module) : Text :=
  (m.write (blank comments)).2.text

/-- A module as text with its comments. -/
def Module.text (m : Module) : Text := m.textWith m.comments

/-- A module as text without comments. -/
def Module.bareText (m : Module) : Text := m.textWith []

/-- A module as a string. -/
def Module.print (m : Module) : String := String.ofList m.text

end DocPreview.Script
