import DocPreview.Script.Reader.Element
import DocPreview.Script.Reader.Statement

/-!
# Reading modules and expressions

The rules of the grammar are tied together by recursion over the depth of nesting. Each nested
rule takes at least one character, so the length of a text bounds the depth that it needs.

## Main definitions

* `Module.parse`: a text read as a module.
* `parseExpression`: the expression that a text starts with.
-/

namespace DocPreview.Script

namespace Reader

/-- One rule, given the rules for what is nested in it. -/
def rule (rules : Rules) : Goal → Reader Node
  | .expression => expression rules
  | .assignment => assignment rules
  | .statement => statement rules
  | .binding => bindingPattern rules
  | .element => element rules

/-- The rules for a depth of nesting. -/
def rulesWithin : Nat → Rules
  | 0 => fun _ => fail .tooDeep
  | n + 1 => rule (rulesWithin n)

/-- The state in which the reading of a text starts at a place. -/
def start (size : Nat) (c : Cursor) : ReaderState where
  cur := Lexeme.read c
  start := c
  lastToken := none
  last := ⟨c.pos, c.pos⟩
  size := size
  failures := []
  comments := []

/-- The items of a module up to the end of the text. -/
def items (rules : Rules) : Reader (List Node) := do
  many (do
    if (← cur).token = .eof then
      return none
    return some (← rules .statement)) (← fuel)

/-- Places the comments before the end of the text. -/
def placeRest (s : ReaderState) : List PlacedComment :=
  let placed := s.cur.comments.map fun c =>
    let p := placeComment s.lastToken s.last s.size c
    if p.isLeading then placeLastComment s.lastToken s.last s.size c else p
  s.comments.reverse ++ placed

end Reader

/-- The first line of a text after `#!`, if it starts so. -/
def shebang? : List Char → Option (List Char)
  | '#' :: '!' :: r => some (r.takeWhile fun c => !isLineTerminator c)
  | _ => none

/-- Reads a text as a module in a scope. A failure that does not stop the reading counts, if there
is none that does. -/
def Module.parseIn (scope : Scope) (text : List Char) : Except Failure Module := do
  let size := text.length
  let shebang := shebang? text
  let first : Cursor :=
    match shebang with
    | none => ⟨text, 0⟩
    | some line => Cursor.skip ⟨text, 0⟩ (line.length + 2)
  let rules := Reader.rulesWithin (size + 2)
  let (body, s) ← (((Reader.items rules).run scope).run (Reader.start size first))
  let failures := s.failures.reverse ++ s.cur.problems
  match failures with
  | f :: _ => throw f
  | [] =>
    let lo := match body with
      | n :: _ => n.span.lo
      | [] => 0
    return ⟨⟨lo, size⟩, shebang.map String.ofList, body, Reader.placeRest s⟩

/-- Reads a text as a module that can return. -/
def Module.parse (text : List Char) : Except Failure Module := Module.parseIn Scope.moduleBody text

/-- An expression with the rest of the text that it starts. -/
structure ParsedExpression where
  expr : Node
  /-- The number of characters up to the end of the expression. -/
  stop : Nat

/-- Reads the expression that a text starts with. -/
def parseExpression (text : List Char) : Except Failure ParsedExpression := do
  let size := text.length
  let rules := Reader.rulesWithin (size + 2)
  let (e, s) ← (((rules .expression).run Scope.plain).run (Reader.start size ⟨text, 0⟩))
  match s.failures.reverse with
  | f :: _ => throw f
  | [] => return ⟨e, e.span.hi⟩

end DocPreview.Script
