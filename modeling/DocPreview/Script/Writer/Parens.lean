import DocPreview.Script.Walk

/-!
# Parentheses

Trees keep the parentheses that were written. `withFewParens` leaves out those that are not
needed for a tree to be read back as it is, and puts in those that a tree made by a program
lacks.

## Main definitions

* `Node.withFewParens`, `allWithFewParens`: trees with the parentheses that they need.
-/

namespace DocPreview.Script

/-- How closely a binary operator binds. -/
def precedence (op : String) : Nat :=
  if ["||", "??"].contains op then 1
  else if op = "&&" then 2
  else if op = "|" then 3
  else if op = "^" then 4
  else if op = "&" then 5
  else if ["==", "!=", "===", "!=="].contains op then 6
  else if ["<", "<=", ">", ">=", "in", "instanceof"].contains op then 7
  else if ["<<", ">>", ">>>"].contains op then 8
  else if ["+", "-"].contains op then 9
  else if ["*", "/", "%"].contains op then 10
  else 11

namespace Node

/-- A node without parentheses around it. -/
def bare : Node → Node
  | .paren _ e => e.bare
  | n => n

/-- A node between parentheses. -/
def parenthesized (n : Node) : Node := .paren Span.none n

/-- A node between parentheses if they are needed. -/
def parenthesizedIf (isNeeded : Bool) (n : Node) : Node := if isNeeded then n.parenthesized else n

/-- Whether a node is a chain of members and calls one of which is optional. -/
def isOptionalChain : Node → Bool
  | .member _ o _ isOptional | .index _ o _ isOptional | .call _ o _ isOptional =>
    isOptional || o.isOptionalChain
  | _ => false

/-- Whether a node is several expressions with commas between them. -/
def isSequence : Node → Bool
  | .sequence _ _ => true
  | _ => false

/-- Whether a node binds less closely than the operators. -/
def isLoose : Node → Bool
  | .sequence _ _ | .assign _ _ _ _ | .conditional _ _ _ _ | .arrow _ _ _ _
  | .yieldExpr _ _ _ => true
  | _ => false

/-- Whether a node cannot be the object of a member or be called as it stands. -/
def isNoObject : Node → Bool
  | .binary _ _ _ _ | .unary _ _ _ | .update _ _ _ _ | .awaitExpr _ _ | .object _ _
  | .function _ _ _ _ _ _ | .classNode _ _ _ _ | .construct _ _ none => true
  | n => n.isLoose

/-- Whether a chain of members holds a call. -/
def holdsCall : Node → Bool
  | .call _ _ _ _ => true
  | .member _ o _ _ | .index _ o _ _ => o.holdsCall
  | _ => false

/-- Whether the right operand of an operator needs parentheses. -/
def needsParensRight (op : String) : Node → Bool
  | .binary _ o _ _ =>
    if o = op then !(["&&", "||", "??", "**"].contains op)
    else precedence o ≤ precedence op || (o = "&&" && op = "??")
  | n => n.isLoose

/-- Whether the left operand of an operator needs parentheses. -/
def needsParensLeft (op : String) : Node → Bool
  | .binary _ o _ _ =>
    ((o = "??") != (op = "??")) || precedence o < precedence op ||
      (op = "**" && precedence o = precedence op)
  | .unary _ _ _ | .awaitExpr _ _ => op = "**"
  | n => n.isLoose

/-- Whether an operand of a unary operator needs parentheses. -/
def needsParensUnary : Node → Bool
  | .binary _ _ _ _ => true
  | n => n.isLoose

/-- Whether the test of a conditional needs parentheses. -/
def needsParensTest (n : Node) : Bool := n.isLoose

/-- A node that is one of several between commas. -/
def asPart (n : Node) : Node :=
  let b := n.bare
  b.parenthesizedIf b.isSequence

/-- A node as the object of a member or as what is called. -/
def asObject : Node → Node
  | .paren s e =>
    let b := e.bare
    if b.isOptionalChain then .paren s b else b.parenthesizedIf b.isNoObject
  | n => n.parenthesizedIf n.isNoObject

/-- A node whose first part, if the text would start a block, a function or a class with it, is
between parentheses. -/
def guardStart : Node → Node
  | .object s ms => (Node.object s ms).parenthesized
  | .function s a b c d e => (Node.function s a b c d e).parenthesized
  | .classNode s a b c => (Node.classNode s a b c).parenthesized
  | .assign s op (.object t ms) v => (Node.assign s op (.object t ms) v).parenthesized
  | .assign s op t v => .assign s op t.guardStart v
  | .binary s op l r => .binary s op l.guardStart r
  | .conditional s t y n => .conditional s t.guardStart y n
  | .member s o p b => .member s o.guardStart p b
  | .index s o p b => .index s o.guardStart p b
  | .call s o as b => .call s o.guardStart as b
  | .tagged s t b => .tagged s t.guardStart b
  | .sequence s (e :: es) => .sequence s (e.guardStart :: es)
  | n => n

/-- A node as the body of an arrow function. -/
def asArrowBody (n : Node) : Node :=
  match n.bare with
  | .object s ms => (Node.object s ms).parenthesized
  | .sequence s es => (Node.sequence s es).parenthesized
  | .assign s op t v => (Node.assign s op t v).parenthesized
  | .member s o p b => (Node.member s o p b).guardStart
  | .index s o p b => (Node.index s o p b).guardStart
  | .call s o as b => (Node.call s o as b).guardStart
  | .binary s op l r => (Node.binary s op l r).guardStart
  | .conditional s t y n => (Node.conditional s t y n).guardStart
  | b => b

/-- The parts of expressions with commas between them. -/
def sequenceParts (n : Node) : List Node :=
  match n.bare with
  | .sequence _ es => es
  | b => [b]

/-- A node whose parts have the parentheses that they need, with the parentheses that its place in
the node around decides left to that node. -/
def arrangeParens : Node → Node
  | .paren s e => if e.bare.isOptionalChain then .paren s e.bare else e.bare
  | .array s items => .array s (items.map asPart)
  | .keyValue s k v => .keyValue s k v.asPart
  | .spread s e => .spread s e.asPart
  | .initialized s t v => .initialized s t v.asPart
  | .arrow s ps body isAsync => .arrow s ps body.asArrowBody isAsync
  | .classNode s name base ms =>
    .classNode s name (base.map fun b => b.bare.parenthesizedIf b.bare.needsParensUnary) ms
  | .field s isStatic k v => .field s isStatic k (v.map asPart)
  | .unary s op e => .unary s op (e.bare.parenthesizedIf e.bare.needsParensUnary)
  | .awaitExpr s e => .awaitExpr s (e.bare.parenthesizedIf e.bare.needsParensUnary)
  | .yieldExpr s e d => .yieldExpr s (e.map asPart) d
  | .binary s op l r =>
    .binary s op (l.bare.parenthesizedIf (l.bare.needsParensLeft op))
      (r.bare.parenthesizedIf (r.bare.needsParensRight op))
  | .assign s op t v => .assign s op t.bare v.asPart
  | .conditional s t y n =>
    .conditional s (t.bare.parenthesizedIf t.bare.needsParensTest) y.asPart n.asPart
  | .call s f as b => .call s f.asObject (as.map asPart) b
  | .construct s f as =>
    let callee := f.bare
    .construct s (callee.parenthesizedIf (callee.isNoObject || callee.holdsCall))
      (as.map fun es => es.map asPart)
  | .member s o p b => .member s o.asObject p b
  | .index s o p b => .index s o.asObject p.bare b
  | .tagged s t b => .tagged s t.asObject b
  | .sequence s es => .sequence s (es.flatMap sequenceParts)
  | .template s ts es => .template s ts (es.map bare)
  | .container s e => .container s (e.map bare)
  | .declarator s t v => .declarator s t (v.map asPart)
  | .exprStmt s e => .exprStmt s e.bare.guardStart
  | .returnStmt s e => .returnStmt s (e.map bare)
  | .throwStmt s e => .throwStmt s e.bare
  | .ifStmt s t y n => .ifStmt s t.bare y n
  | .exportDefaultExpr s e => .exportDefaultExpr s e.asPart
  | n => n

/-- A tree with the parentheses that it needs. -/
def withFewParens (n : Node) : Node := n.replace fun _ n => n.arrangeParens

end Node

/-- Trees with the parentheses that they need. -/
def allWithFewParens (ns : List Node) : List Node := ns.map Node.withFewParens

end DocPreview.Script
