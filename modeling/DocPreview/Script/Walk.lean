import DocPreview.Script.Tree

/-!
# Walking through trees

A walk visits the nodes of a tree in the order of the text. One action is run when it comes to a
node, and when it leaves the node a second one gives what the node is replaced by, from the node
as it was and from the node with its parts already replaced.

## Main definitions

* `Node.walkM`: a walk with both actions.
* `Node.replaceM`, `Node.replace`: walks that only replace nodes.
-/

namespace DocPreview.Script

variable {m : Type → Type} [Monad m]

mutual

/-- A tree after a walk that runs `enter` at each node and replaces the node by what `leave` makes
of it and of it with its parts replaced. -/
def Node.walkM (enter : Node → m Unit) (leave : Node → Node → m Node) : Node → m Node
  | .template span texts exprs => do
    enter (.template span texts exprs)
    leave (.template span texts exprs) (.template span texts (← walkAllM enter leave exprs))
  | .tagged span tag body => do
    enter (.tagged span tag body)
    leave (.tagged span tag body)
      (.tagged span (← tag.walkM enter leave) (← body.walkM enter leave))
  | .array span items => do
    enter (.array span items)
    leave (.array span items) (.array span (← walkAllM enter leave items))
  | .object span members => do
    enter (.object span members)
    leave (.object span members) (.object span (← walkAllM enter leave members))
  | .keyValue span key value => do
    enter (.keyValue span key value)
    leave (.keyValue span key value)
      (.keyValue span (← key.walkM enter leave) (← value.walkM enter leave))
  | .computedKey span key => do
    enter (.computedKey span key)
    leave (.computedKey span key) (.computedKey span (← key.walkM enter leave))
  | .method span kind isStatic key fn => do
    enter (.method span kind isStatic key fn)
    leave (.method span kind isStatic key fn)
      (.method span kind isStatic (← key.walkM enter leave) (← fn.walkM enter leave))
  | .spread span arg => do
    enter (.spread span arg)
    leave (.spread span arg) (.spread span (← arg.walkM enter leave))
  | .initialized span target value => do
    enter (.initialized span target value)
    leave (.initialized span target value)
      (.initialized span (← target.walkM enter leave) (← value.walkM enter leave))
  | .function span name params body isAsync isGenerator => do
    enter (.function span name params body isAsync isGenerator)
    leave (.function span name params body isAsync isGenerator)
      (.function span (← walkOptionM enter leave name) (← walkAllM enter leave params)
        (← walkAllM enter leave body) isAsync isGenerator)
  | .arrow span params body isAsync => do
    enter (.arrow span params body isAsync)
    leave (.arrow span params body isAsync)
      (.arrow span (← walkAllM enter leave params) (← body.walkM enter leave) isAsync)
  | .classNode span name base members => do
    enter (.classNode span name base members)
    leave (.classNode span name base members)
      (.classNode span (← walkOptionM enter leave name) (← walkOptionM enter leave base)
        (← walkAllM enter leave members))
  | .field span isStatic key value => do
    enter (.field span isStatic key value)
    leave (.field span isStatic key value)
      (.field span isStatic (← key.walkM enter leave) (← walkOptionM enter leave value))
  | .staticBlock span body => do
    enter (.staticBlock span body)
    leave (.staticBlock span body) (.staticBlock span (← walkAllM enter leave body))
  | .unary span op arg => do
    enter (.unary span op arg)
    leave (.unary span op arg) (.unary span op (← arg.walkM enter leave))
  | .update span op isBefore arg => do
    enter (.update span op isBefore arg)
    leave (.update span op isBefore arg) (.update span op isBefore (← arg.walkM enter leave))
  | .binary span op left right => do
    enter (.binary span op left right)
    leave (.binary span op left right)
      (.binary span op (← left.walkM enter leave) (← right.walkM enter leave))
  | .assign span op target value => do
    enter (.assign span op target value)
    leave (.assign span op target value)
      (.assign span op (← target.walkM enter leave) (← value.walkM enter leave))
  | .conditional span test yes no => do
    enter (.conditional span test yes no)
    leave (.conditional span test yes no)
      (.conditional span (← test.walkM enter leave) (← yes.walkM enter leave)
        (← no.walkM enter leave))
  | .call span callee args isOptional => do
    enter (.call span callee args isOptional)
    leave (.call span callee args isOptional)
      (.call span (← callee.walkM enter leave) (← walkAllM enter leave args) isOptional)
  | .construct span callee args => do
    enter (.construct span callee args)
    leave (.construct span callee args)
      (.construct span (← callee.walkM enter leave) (← walkListOptionM enter leave args))
  | .member span object property isOptional => do
    enter (.member span object property isOptional)
    leave (.member span object property isOptional)
      (.member span (← object.walkM enter leave) (← property.walkM enter leave) isOptional)
  | .index span object property isOptional => do
    enter (.index span object property isOptional)
    leave (.index span object property isOptional)
      (.index span (← object.walkM enter leave) (← property.walkM enter leave) isOptional)
  | .sequence span exprs => do
    enter (.sequence span exprs)
    leave (.sequence span exprs) (.sequence span (← walkAllM enter leave exprs))
  | .paren span expr => do
    enter (.paren span expr)
    leave (.paren span expr) (.paren span (← expr.walkM enter leave))
  | .yieldExpr span arg isDelegate => do
    enter (.yieldExpr span arg isDelegate)
    leave (.yieldExpr span arg isDelegate)
      (.yieldExpr span (← walkOptionM enter leave arg) isDelegate)
  | .awaitExpr span arg => do
    enter (.awaitExpr span arg)
    leave (.awaitExpr span arg) (.awaitExpr span (← arg.walkM enter leave))
  | .element span name attributes children selfClosing => do
    enter (.element span name attributes children selfClosing)
    leave (.element span name attributes children selfClosing)
      (.element span (← name.walkM enter leave) (← walkAllM enter leave attributes)
        (← walkAllM enter leave children) selfClosing)
  | .fragment span children => do
    enter (.fragment span children)
    leave (.fragment span children) (.fragment span (← walkAllM enter leave children))
  | .attr span name value => do
    enter (.attr span name value)
    leave (.attr span name value)
      (.attr span (← name.walkM enter leave) (← walkOptionM enter leave value))
  | .container span expr => do
    enter (.container span expr)
    leave (.container span expr) (.container span (← walkOptionM enter leave expr))
  | .exprStmt span expr => do
    enter (.exprStmt span expr)
    leave (.exprStmt span expr) (.exprStmt span (← expr.walkM enter leave))
  | .block span body => do
    enter (.block span body)
    leave (.block span body) (.block span (← walkAllM enter leave body))
  | .withStmt span object body => do
    enter (.withStmt span object body)
    leave (.withStmt span object body)
      (.withStmt span (← object.walkM enter leave) (← body.walkM enter leave))
  | .returnStmt span arg => do
    enter (.returnStmt span arg)
    leave (.returnStmt span arg) (.returnStmt span (← walkOptionM enter leave arg))
  | .labeled span label body => do
    enter (.labeled span label body)
    leave (.labeled span label body)
      (.labeled span (← label.walkM enter leave) (← body.walkM enter leave))
  | .breakStmt span label => do
    enter (.breakStmt span label)
    leave (.breakStmt span label) (.breakStmt span (← walkOptionM enter leave label))
  | .continueStmt span label => do
    enter (.continueStmt span label)
    leave (.continueStmt span label) (.continueStmt span (← walkOptionM enter leave label))
  | .ifStmt span test yes no => do
    enter (.ifStmt span test yes no)
    leave (.ifStmt span test yes no)
      (.ifStmt span (← test.walkM enter leave) (← yes.walkM enter leave)
        (← walkOptionM enter leave no))
  | .switchStmt span subject cases => do
    enter (.switchStmt span subject cases)
    leave (.switchStmt span subject cases)
      (.switchStmt span (← subject.walkM enter leave) (← walkAllM enter leave cases))
  | .switchCase span test body => do
    enter (.switchCase span test body)
    leave (.switchCase span test body)
      (.switchCase span (← walkOptionM enter leave test) (← walkAllM enter leave body))
  | .throwStmt span arg => do
    enter (.throwStmt span arg)
    leave (.throwStmt span arg) (.throwStmt span (← arg.walkM enter leave))
  | .tryStmt span body handler finalizer => do
    enter (.tryStmt span body handler finalizer)
    leave (.tryStmt span body handler finalizer)
      (.tryStmt span (← body.walkM enter leave) (← walkOptionM enter leave handler)
        (← walkOptionM enter leave finalizer))
  | .catchClause span param body => do
    enter (.catchClause span param body)
    leave (.catchClause span param body)
      (.catchClause span (← walkOptionM enter leave param) (← body.walkM enter leave))
  | .whileStmt span test body => do
    enter (.whileStmt span test body)
    leave (.whileStmt span test body)
      (.whileStmt span (← test.walkM enter leave) (← body.walkM enter leave))
  | .doWhile span body test => do
    enter (.doWhile span body test)
    leave (.doWhile span body test)
      (.doWhile span (← body.walkM enter leave) (← test.walkM enter leave))
  | .forStmt span start test step body => do
    enter (.forStmt span start test step body)
    leave (.forStmt span start test step body)
      (.forStmt span (← walkOptionM enter leave start) (← walkOptionM enter leave test)
        (← walkOptionM enter leave step) (← body.walkM enter leave))
  | .forIn span target object body => do
    enter (.forIn span target object body)
    leave (.forIn span target object body)
      (.forIn span (← target.walkM enter leave) (← object.walkM enter leave)
        (← body.walkM enter leave))
  | .forOf span isAwait target object body => do
    enter (.forOf span isAwait target object body)
    leave (.forOf span isAwait target object body)
      (.forOf span isAwait (← target.walkM enter leave) (← object.walkM enter leave)
        (← body.walkM enter leave))
  | .varDecl span kind declarators => do
    enter (.varDecl span kind declarators)
    leave (.varDecl span kind declarators)
      (.varDecl span kind (← walkAllM enter leave declarators))
  | .declarator span target value => do
    enter (.declarator span target value)
    leave (.declarator span target value)
      (.declarator span (← target.walkM enter leave) (← walkOptionM enter leave value))
  | .importDecl span specifiers source => do
    enter (.importDecl span specifiers source)
    leave (.importDecl span specifiers source)
      (.importDecl span (← walkAllM enter leave specifiers) (← source.walkM enter leave))
  | .importDefault span binding => do
    enter (.importDefault span binding)
    leave (.importDefault span binding) (.importDefault span (← binding.walkM enter leave))
  | .importAll span binding => do
    enter (.importAll span binding)
    leave (.importAll span binding) (.importAll span (← binding.walkM enter leave))
  | .importNamed span imported binding => do
    enter (.importNamed span imported binding)
    leave (.importNamed span imported binding)
      (.importNamed span (← walkOptionM enter leave imported) (← binding.walkM enter leave))
  | .exportDecl span decl => do
    enter (.exportDecl span decl)
    leave (.exportDecl span decl) (.exportDecl span (← decl.walkM enter leave))
  | .exportNamed span specifiers source => do
    enter (.exportNamed span specifiers source)
    leave (.exportNamed span specifiers source)
      (.exportNamed span (← walkAllM enter leave specifiers) (← walkOptionM enter leave source))
  | .exportSpace span name => do
    enter (.exportSpace span name)
    leave (.exportSpace span name) (.exportSpace span (← name.walkM enter leave))
  | .exportSpecifier span localName exported => do
    enter (.exportSpecifier span localName exported)
    leave (.exportSpecifier span localName exported)
      (.exportSpecifier span (← localName.walkM enter leave) (← walkOptionM enter leave exported))
  | .exportAll span source => do
    enter (.exportAll span source)
    leave (.exportAll span source) (.exportAll span (← source.walkM enter leave))
  | .exportDefaultDecl span decl => do
    enter (.exportDefaultDecl span decl)
    leave (.exportDefaultDecl span decl) (.exportDefaultDecl span (← decl.walkM enter leave))
  | .exportDefaultExpr span expr => do
    enter (.exportDefaultExpr span expr)
    leave (.exportDefaultExpr span expr) (.exportDefaultExpr span (← expr.walkM enter leave))
  | n => do
    enter n
    leave n n

/-- Nodes after a walk through each of them. -/
def walkAllM (enter : Node → m Unit) (leave : Node → Node → m Node) : List Node → m (List Node)
  | [] => return []
  | n :: ns => do
    let n' ← n.walkM enter leave
    let ns' ← walkAllM enter leave ns
    return n' :: ns'

/-- A node that may be missing after a walk. -/
def walkOptionM (enter : Node → m Unit) (leave : Node → Node → m Node) :
    Option Node → m (Option Node)
  | none => return none
  | some n => do
    let n' ← n.walkM enter leave
    return some n'

/-- Nodes that may be missing after a walk. -/
def walkListOptionM (enter : Node → m Unit) (leave : Node → Node → m Node) :
    Option (List Node) → m (Option (List Node))
  | none => return none
  | some ns => do
    let ns' ← walkAllM enter leave ns
    return some ns'

end

/-- A tree with each node replaced by what `f` makes of it and of it with its parts replaced. -/
def Node.replaceM (f : Node → Node → m Node) (n : Node) : m Node := n.walkM (fun _ => pure ()) f

/-- Nodes with each of them replaced. -/
def replaceAllM (f : Node → Node → m Node) (ns : List Node) : m (List Node) :=
  walkAllM (fun _ => pure ()) f ns

/-- A tree with each node replaced by what `f` makes of it and of it with its parts replaced. -/
def Node.replace (f : Node → Node → Node) (n : Node) : Node :=
  Id.run (n.replaceM fun a b => pure (f a b))

/-- Nodes with each of them replaced. -/
def replaceAll (f : Node → Node → Node) (ns : List Node) : List Node :=
  Id.run (replaceAllM (fun a b => pure (f a b)) ns)

end DocPreview.Script
