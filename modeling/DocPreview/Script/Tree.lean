/-!
# Trees of scripts

The syntax of ECMAScript modules with JSX as a tree. All constructs are nodes of one type: a
pattern has the form of the expression that it looks like, and a function stands for itself both
as an expression and as a declaration.

Spans are counted in characters from the start of the text. A node made by a program has the
span `Span.none`.
-/

namespace DocPreview.Script

/-- The characters of a text from number `lo` to before number `hi`. -/
structure Span where
  lo : Nat
  hi : Nat
  deriving Repr, DecidableEq, Inhabited

/-- The span of a node that was not read from a text. -/
def Span.none : Span := ⟨0, 0⟩

/-- The span from the start of one span to the end of another one. -/
def Span.to (a b : Span) : Span := ⟨a.lo, b.hi⟩

/-- A literal other than a string, with numbers and regular expressions as written. -/
inductive Literal where
  | null
  | bool (b : Bool)
  | number (raw : String)
  | bigInt (raw : String)
  | regex (raw : String)
  deriving Repr, DecidableEq

/-- The keyword of a variable declaration. -/
inductive VarKind where
  | var
  | letDecl
  | const
  deriving Repr, DecidableEq

/-- The keyword of a variable declaration as written. -/
def VarKind.word : VarKind → String
  | var => "var"
  | letDecl => "let"
  | const => "const"

/-- What calling a method or reading or writing a property does. -/
inductive MethodKind where
  | method
  | getter
  | setter
  deriving Repr, DecidableEq

/-- A node of the tree of a script. -/
inductive Node where
  /-- An array element that is left out. -/
  | hole
  | ident (span : Span) (name : String)
  | privateName (span : Span) (name : String)
  | this (span : Span)
  | super (span : Span)
  /-- The callee of `import(...)`. -/
  | importWord (span : Span)
  /-- `new.target` or `import.meta`. -/
  | metaProperty (span : Span) (text : String)
  | literal (span : Span) (value : Literal)
  /-- A string, with its text in the source if it was read from one. -/
  | string (span : Span) (value : String) (raw : Option String)
  /-- A template: the texts as written, one more than there are expressions. -/
  | template (span : Span) (texts : List String) (exprs : List Node)
  | tagged (span : Span) (tag : Node) (body : Node)
  | array (span : Span) (items : List Node)
  | object (span : Span) (members : List Node)
  /-- The member `key: value` of an object. -/
  | keyValue (span : Span) (key value : Node)
  /-- The key `[expr]` of a member. -/
  | computedKey (span : Span) (key : Node)
  /-- A method, getter or setter of an object or a class; `fn` is a `function` node. -/
  | method (span : Span) (kind : MethodKind) (isStatic : Bool) (key fn : Node)
  /-- `...arg` in a list, a call, an object, a pattern or an element. -/
  | spread (span : Span) (arg : Node)
  /-- A target with the value that stands in for `undefined`. -/
  | initialized (span : Span) (target value : Node)
  | function (span : Span) (name : Option Node) (params : List Node) (body : List Node)
      (isAsync isGenerator : Bool)
  /-- An arrow function, whose body is an expression or a block. -/
  | arrow (span : Span) (params : List Node) (body : Node) (isAsync : Bool)
  | classNode (span : Span) (name : Option Node) (base : Option Node) (members : List Node)
  | field (span : Span) (isStatic : Bool) (key : Node) (value : Option Node)
  | staticBlock (span : Span) (body : List Node)
  | unary (span : Span) (op : String) (arg : Node)
  /-- `++` or `--`, before or after its operand. -/
  | update (span : Span) (op : String) (isBefore : Bool) (arg : Node)
  | binary (span : Span) (op : String) (left right : Node)
  | assign (span : Span) (op : String) (target value : Node)
  | conditional (span : Span) (test yes no : Node)
  | call (span : Span) (callee : Node) (args : List Node) (isOptional : Bool)
  | construct (span : Span) (callee : Node) (args : Option (List Node))
  /-- `object.property`, where the property is a name. -/
  | member (span : Span) (object property : Node) (isOptional : Bool)
  /-- `object[property]`. -/
  | index (span : Span) (object property : Node) (isOptional : Bool)
  | sequence (span : Span) (exprs : List Node)
  | paren (span : Span) (expr : Node)
  | yieldExpr (span : Span) (arg : Option Node) (isDelegate : Bool)
  | awaitExpr (span : Span) (arg : Node)
  /-- A JSX element. -/
  | element (span : Span) (name : Node) (attributes children : List Node) (selfClosing : Bool)
  | fragment (span : Span) (children : List Node)
  /-- The name `space:name` of an element or an attribute. -/
  | spacedName (span : Span) (space name : String)
  | attr (span : Span) (name : Node) (value : Option Node)
  /-- Text between elements: the characters it stands for. -/
  | text (span : Span) (value : String)
  /-- `{expr}` between elements or as the value of an attribute. -/
  | container (span : Span) (expr : Option Node)
  | exprStmt (span : Span) (expr : Node)
  | block (span : Span) (body : List Node)
  | empty (span : Span)
  | debuggerStmt (span : Span)
  | withStmt (span : Span) (object body : Node)
  | returnStmt (span : Span) (arg : Option Node)
  | labeled (span : Span) (label body : Node)
  | breakStmt (span : Span) (label : Option Node)
  | continueStmt (span : Span) (label : Option Node)
  | ifStmt (span : Span) (test yes : Node) (no : Option Node)
  | switchStmt (span : Span) (subject : Node) (cases : List Node)
  /-- A case of a switch, `default` having no test. -/
  | switchCase (span : Span) (test : Option Node) (body : List Node)
  | throwStmt (span : Span) (arg : Node)
  | tryStmt (span : Span) (body : Node) (handler finalizer : Option Node)
  | catchClause (span : Span) (param : Option Node) (body : Node)
  | whileStmt (span : Span) (test body : Node)
  | doWhile (span : Span) (body test : Node)
  | forStmt (span : Span) (start test step : Option Node) (body : Node)
  | forIn (span : Span) (target object body : Node)
  | forOf (span : Span) (isAwait : Bool) (target object body : Node)
  | varDecl (span : Span) (kind : VarKind) (declarators : List Node)
  | declarator (span : Span) (target : Node) (value : Option Node)
  | importDecl (span : Span) (specifiers : List Node) (source : Node)
  | importDefault (span : Span) (binding : Node)
  | importAll (span : Span) (binding : Node)
  | importNamed (span : Span) (imported : Option Node) (binding : Node)
  | exportDecl (span : Span) (decl : Node)
  | exportNamed (span : Span) (specifiers : List Node) (source : Option Node)
  /-- `* as name` in an export list. -/
  | exportSpace (span : Span) (name : Node)
  | exportSpecifier (span : Span) (localName : Node) (exported : Option Node)
  | exportAll (span : Span) (source : Node)
  | exportDefaultDecl (span : Span) (decl : Node)
  | exportDefaultExpr (span : Span) (expr : Node)
  deriving Inhabited

namespace Node

/-- The span of a node. -/
def span : Node → Span
  | hole => Span.none
  | ident s _ | privateName s _ | this s | super s | importWord s | metaProperty s _
  | literal s _ | string s _ _ | template s _ _ | tagged s _ _ | array s _ | object s _
  | keyValue s _ _ | computedKey s _ | method s _ _ _ _ | spread s _ | initialized s _ _
  | function s _ _ _ _ _ | arrow s _ _ _ | classNode s _ _ _ | field s _ _ _ | staticBlock s _
  | unary s _ _ | update s _ _ _ | binary s _ _ _ | assign s _ _ _ | conditional s _ _ _
  | call s _ _ _ | construct s _ _ | member s _ _ _ | index s _ _ _ | sequence s _ | paren s _
  | yieldExpr s _ _ | awaitExpr s _ | element s _ _ _ _ | fragment s _ | spacedName s _ _
  | attr s _ _ | text s _ | container s _ | exprStmt s _ | block s _ | empty s
  | debuggerStmt s | withStmt s _ _ | returnStmt s _ | labeled s _ _ | breakStmt s _
  | continueStmt s _ | ifStmt s _ _ _ | switchStmt s _ _ | switchCase s _ _ | throwStmt s _
  | tryStmt s _ _ _ | catchClause s _ _ | whileStmt s _ _ | doWhile s _ _ | forStmt s _ _ _ _
  | forIn s _ _ _ | forOf s _ _ _ _ | varDecl s _ _ | declarator s _ _ | importDecl s _ _
  | importDefault s _ | importAll s _ | importNamed s _ _ | exportDecl s _ | exportNamed s _ _
  | exportSpace s _ | exportSpecifier s _ _ | exportAll s _ | exportDefaultDecl s _
  | exportDefaultExpr s _ => s

end Node

/-- A comment of a script. -/
structure Comment where
  /-- Whether the comment runs to the end of its line. -/
  isLine : Bool
  /-- The text between the comment's delimiters. -/
  text : String
  deriving Repr, DecidableEq

/-- A comment with the position to which it belongs. -/
structure PlacedComment where
  /-- The position before which or after which the comment stands. -/
  place : Nat
  /-- Whether the comment stands before its position. -/
  isLeading : Bool
  comment : Comment
  deriving Repr, DecidableEq

/-- A module with its comments. -/
structure Module where
  span : Span
  /-- The text after `#!` in the first line, if it starts so. -/
  shebang : Option String
  body : List Node
  comments : List PlacedComment
  deriving Inhabited

end DocPreview.Script
