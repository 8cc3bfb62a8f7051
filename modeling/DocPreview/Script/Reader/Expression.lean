import DocPreview.Script.Reader.Function

/-!
# Expressions of scripts

Expressions by precedence: sequences, assignments and arrow functions, conditionals, binary
operators, unary operators, and members and calls of a primary expression.
-/

namespace DocPreview.Script.Reader

/-- Expressions inside brackets, where the operator `in` is allowed. -/
def inBrackets {α : Type} (r : Reader α) : Reader α :=
  within (fun s => { s with allowsIn := true }) r

/-! ### Templates -/

/-- The texts and the expressions of a template from a place inside it on. -/
def templateParts (rules : Rules) : Nat → Cursor → Reader (List String × List Node)
  | 0, _ => failEnd
  | n + 1, c => do
    match scanTemplate (c.rest.length + 1) c with
    | none => failEnd
    | some (text, .close, next) =>
      jump ⟨next.pos - 1, next.pos⟩ next
      return ([String.ofList text], [])
    | some (text, .hole, next) =>
      jump ⟨next.pos - 2, next.pos⟩ next
      let e ← inBrackets (rules .expression)
      let l ← needToken
      if l.token ≠ .punct "\x7d" then
        fail (.expected "\x7d" (shown l.token))
      let (texts, exprs) ← templateParts rules n l.next
      return (String.ofList text :: texts, e :: exprs)

/-- A template, whose opening backquote is the next token. -/
def template (rules : Rules) : Reader Node := do
  let l ← cur
  let (texts, exprs) ← templateParts rules (← fuel) l.next
  return .template (← spanFrom l.span.lo) texts exprs

/-! ### Arguments, arrays, objects -/

/-- An argument or an element: an expression, perhaps spread. -/
def spreadable (rules : Rules) : Reader Node := do
  let lo ← position
  if ← eat "..." then
    let e ← rules .assignment
    return .spread (← spanFrom lo) e
  rules .assignment

/-- The arguments of a call, whose opening parenthesis is the next token. -/
def arguments (rules : Rules) : Reader (List Node) := do
  expect "("
  inBrackets (list (spreadable rules) ")")

/-- An array after its opening bracket. -/
def arrayFrom (rules : Rules) (lo : Nat) : Reader Node := inBrackets do
  let n ← fuel
  let items ← many (do
    if ← isPunct "]" then
      return none
    if ← eat "," then
      return some Node.hole
    let e ← spreadable rules
    if !(← isPunct "]") then
      expect ","
    return some e) n
  expect "]"
  return .array (← spanFrom lo) items

/-- A member of an object. -/
def objectMember (rules : Rules) : Reader Node := do
  let l ← needToken
  let lo := l.span.lo
  if ← eat "..." then
    let e ← rules .assignment
    return .spread (← spanFrom lo) e
  let m ← modifiers
  let keyLexeme ← cur
  let key ← memberKey rules
  if ← isPunct "(" then
    let fn ← methodRest rules m.isAsync m.isGenerator false
    checkAccessor m.kind key.span fn
    return .method (← spanFrom lo) m.kind false key fn
  if m.isAsync || m.isGenerator || m.kind ≠ .method then
    expect "("
  if ← eat ":" then
    let value ← rules .assignment
    return .keyValue (← spanFrom lo) key value
  match keyLexeme.token, key with
  | .word word _, .ident span _ =>
    let name ← nameOf span word
    if ← eat "=" then
      let value ← rules .assignment
      return .initialized (← spanFrom lo) name value
    return name
  | _, _ => unexpected "one of , or \x7d or : or ("

/-- An object after its opening brace. -/
def objectFrom (rules : Rules) (lo : Nat) : Reader Node := inBrackets do
  let members ← list (objectMember rules) "\x7d"
  return .object (← spanFrom lo) members

/-! ### Arrow functions -/

/-- Whether an arrow follows on the same line. -/
def isArrow : Reader Bool := do
  let l ← cur
  return l.token = .punct "=>" && !l.afterBreak

/-- An arrow function from its arrow on, with its parameters as patterns. -/
def arrowFrom (rules : Rules) (lo : Nat) (params : List Node) (isAsync : Bool) : Reader Node := do
  expect "=>"
  let outer ← read
  let scope (s : Scope) : Scope :=
    { Scope.ofFunction isAsync false s with allowsNewTarget := s.allowsNewTarget }
  if ← isPunct "\x7b" then
    within scope do
      let blockLo ← position
      let body ← functionBody rules
      let block := Node.block (← spanFrom blockLo) body
      return .arrow (← spanFrom lo) params block isAsync
  else
    within (fun s => { scope s with allowsIn := outer.allowsIn }) do
      let body ← rules .assignment
      return .arrow (← spanFrom lo) params body isAsync

/-- An item between parentheses that may be the parameters of an arrow function. -/
def coverItem (rules : Rules) : Reader Node := do
  let lo ← position
  if ← eat "..." then
    let target ← rules .binding
    return .spread (← spanFrom lo) target
  rules .assignment

/-- The items between parentheses, and whether a comma follows the last one. -/
def coverItems (rules : Rules) : Reader (List Node × Bool) := inBrackets do
  expect "("
  let n ← fuel
  let items ← many (do
    if ← isPunct ")" then
      return none
    let e ← coverItem rules
    let comma ← eat ","
    if !comma then
      if !(← isPunct ")") then
        fail (.expected "," (shown (← cur).token))
    return some (e, comma)) n
  expect ")"
  return (items.map (·.1), (items.getLast?.map (·.2)).getD false)

/-- The nesting of patterns that is looked at. -/
def patternDepth : Reader Nat := return (← get).size + 2

/-- Expressions between parentheses read as the parameters of an arrow function. -/
def arrowParameters (items : List Node) : Reader (List Node) := do
  let depth ← patternDepth
  items.mapM (toPattern true depth)

/-- A parenthesized expression or an arrow function. -/
def parenthesized (rules : Rules) (canBeArrow : Bool) : Reader Node := do
  let lo ← position
  let (items, comma) ← coverItems rules
  if canBeArrow then
    if ← isArrow then
      let params ← arrowParameters items
      return ← arrowFrom rules lo params false
  let span ← spanFrom lo
  match items with
  | [] => failAt span .emptyParens
  | [e] =>
    if comma then
      failAt e.span .expressionExpected
    if let .spread s _ := e then
      failAt s .spreadInParens
    checkExpression e
    return .paren span e
  | first :: _ =>
    let last := items.getLast?.getD first
    if comma then
      failAt last.span .expressionExpected
    items.forM fun e => do
      if let .spread s _ := e then
        failAt s .spreadInParens
      checkExpression e
    return .paren span (.sequence (first.span.to last.span) items)

/-! ### Primary expressions -/

/-- An expression that starts with the word `async`. -/
def asyncFrom (rules : Rules) (canBeArrow : Bool) : Reader Node := do
  let lo ← position
  let after ← peek
  if after.token = .word "function" false && !after.afterBreak then
    bump
    return ← functionFrom rules lo true false
  bump
  let name : Node ← do
    let span ← spanFrom lo
    pure (.ident span "async")
  if canBeArrow then
    if !(← cur).afterBreak then
      match (← cur).token with
      | .word w _ =>
        if isReference (← read) w then
          let afterName ← peek
          if afterName.token = .punct "=>" then
            let param ← bindingName
            return ← arrowFrom rules lo [param] true
      | _ => pure ()
      if ← isPunct "(" then
        let argsLo ← position
        let (items, _) ← within (fun s => { s with inAsync := true }) (coverItems rules)
        if ← isArrow then
          let params ← arrowParameters items
          return ← arrowFrom rules lo params true
        let _ := argsLo
        return .call (← spanFrom lo) name items false
    if ← isArrow then
      return ← arrowFrom rules lo [name] false
  return name

/-- The callee `import` or the property `import.meta`. -/
def importFrom : Reader Node := do
  let lo ← position
  expectWord "import"
  if ← eat "." then
    expectWord "meta"
    return .metaProperty (← spanFrom lo) "import.meta"
  if !(← isPunct "(") then
    unexpected "("
  return .importWord (← spanFrom lo)

/-- The word `super` before a member or a call. -/
def superFrom : Reader Node := do
  let lo ← position
  expectWord "super"
  let span ← spanFrom lo
  let scope ← read
  let l ← needToken
  if l.token = .punct "(" then
    if !scope.allowsSuperCall then
      failAt span .superCallNotAllowed
    return .super span
  if l.token = .punct "." || l.token = .punct "[" then
    if !scope.allowsSuper then
      let after ← peek
      failAt after.span .superNotAllowed
    return .super span
  failAt span .superNotAllowed

/-- A regular expression, whose first slash starts the next token. -/
def regexFrom : Reader Node := do
  let l ← cur
  match scanRegex (← do
      let s ← get
      pure ⟨s.start.rest.drop (l.span.lo - s.start.pos), l.span.lo⟩) with
  | .error f => throw f
  | .ok (raw, next) =>
    jump ⟨l.span.lo, next.pos⟩ next
    modify fun s => { s with lastToken := some (.number raw) }
    return .literal ⟨l.span.lo, next.pos⟩ (.regex raw)

/-- An expression that is neither a member nor a call; `canBeArrow` tells whether an arrow
function can start here. -/
def primary (rules : Rules) (baseClass : Reader Node) (canBeArrow : Bool) : Reader Node := do
  let l ← needToken
  let lo := l.span.lo
  match l.token with
  | .string value raw =>
    bump
    return .string l.span value (some raw)
  | .number raw =>
    bump
    return .literal l.span (.number raw)
  | .bigInt raw =>
    bump
    return .literal l.span (.bigInt raw)
  | .privateName name =>
    let after ← peek
    if after.token = .word "in" false then
      bump
      return .privateName l.span name
    fail .expressionExpected
  | .punct "(" => parenthesized rules canBeArrow
  | .punct "[" =>
    bump
    arrayFrom rules lo
  | .punct "\x7b" =>
    bump
    objectFrom rules lo
  | .punct "\x60" => template rules
  | .punct "/" => regexFrom
  | .punct "/=" => regexFrom
  | .punct "<" => rules .element
  | .word word escaped =>
    if !escaped then
      match word with
      | "this" =>
        bump
        return .this l.span
      | "null" =>
        bump
        return .literal l.span .null
      | "true" =>
        bump
        return .literal l.span (.bool true)
      | "false" =>
        bump
        return .literal l.span (.bool false)
      | "function" => return ← within (fun s => s) (functionFrom rules lo false false)
      | "class" => return ← classFrom rules baseClass false
      | "async" => return ← asyncFrom rules canBeArrow
      | "import" => return ← importFrom
      | "super" => return ← superFrom
      | _ => pure ()
    if isReference (← read) word then
      bump
      let name ← nameOf l.span word
      if canBeArrow then
        if ← isArrow then
          checkBound l.span word
          return ← arrowFrom rules lo [name] false
      return name
    if escaped then
      fail (.escapedReserved word)
    fail .expressionExpected
  | _ => fail .expressionExpected

/-! ### Members and calls -/

/-- One more member access, call or template after an expression that starts at `lo`; `calls`
tells whether calls and optional accesses are allowed. -/
def subscript (rules : Rules) (lo : Nat) (calls : Bool) (e : Node) : Reader (Option Node) := do
  match (← cur).token with
  | .punct "." =>
    bump
    let name ← memberName
    return some (.member (← spanFrom lo) e name false)
  | .punct "[" =>
    bump
    let key ← inBrackets (rules .expression)
    expect "]"
    return some (.index (← spanFrom lo) e key false)
  | .punct "?." =>
    if !calls then
      fail .optionalNewNotAllowed
    bump
    match (← needToken).token with
    | .punct "[" =>
      bump
      let key ← inBrackets (rules .expression)
      expect "]"
      return some (.index (← spanFrom lo) e key true)
    | .punct "(" =>
      let args ← arguments rules
      return some (.call (← spanFrom lo) e args true)
    | .punct "\x60" => fail .optionalTemplate
    | _ =>
      let name ← memberName
      return some (.member (← spanFrom lo) e name true)
  | .punct "(" =>
    if calls then
      let args ← arguments rules
      return some (.call (← spanFrom lo) e args false)
    else
      return none
  | .punct "\x60" =>
    let body ← template rules
    return some (.tagged (← spanFrom lo) e body)
  | _ => return none

/-- Whether an expression is an arrow function. -/
def isArrowNode : Node → Bool
  | .arrow _ _ _ _ => true
  | _ => false

/-- The callee of `new` with its arguments, or `new.target`; `n` bounds the nesting of `new`. -/
def construction (rules : Rules) (base : Bool → Reader Node) : Nat → Reader Node
  | 0 => fail .tooDeep
  | n + 1 => do
    let lo ← position
    expectWord "new"
    if ← eat "." then
      expectWord "target"
      let span ← spanFrom lo
      if !(← read).allowsNewTarget then
        noteAt span .newTargetNotAllowed
      return .metaProperty span "new.target"
    let calleeLo ← position
    let first ← do
      if ← isWord "new" then
        construction rules base n
      else
        base false
    let callee ← iterate (subscript rules calleeLo false) (← fuel) first
    if ← isPunct "(" then
      let args ← arguments rules
      return .construct (← spanFrom lo) callee (some args)
    return .construct (← spanFrom lo) callee none

/-- A primary expression with its members and calls; `n` bounds the nesting of classes that
extend such an expression. -/
def leftSide (rules : Rules) (canBeArrow : Bool) : Nat → Reader Node
  | 0 => fail .tooDeep
  | n + 1 => do
    let lo ← position
    let base := primary rules (leftSide rules false n)
    let first ← do
      if ← isWord "new" then
        construction rules base (← fuel)
      else
        base canBeArrow
    if isArrowNode first then
      return first
    iterate (subscript rules lo true) (← fuel) first

/-! ### Operators -/

/-- The unary operators that are punctuators. -/
def unaryPunctuators : List String := ["!", "~", "+", "-"]

/-- The unary operators that are words. -/
def unaryWords : List String := ["typeof", "void", "delete"]

/-- The unary operator at the next token. -/
def unaryOperator? : Reader (Option String) := do
  return match (← cur).token with
    | .punct text => if unaryPunctuators.contains text then some text else none
    | .word word false => if unaryWords.contains word then some word else none
    | _ => none

/-- Notes the deletion of a name. -/
def checkDelete (op : String) (arg : Node) : Reader Unit :=
  match op, arg with
  | "delete", .ident span _ => noteStrictAt span .strictDelete
  | "delete", .paren _ (.ident span _) => noteStrictAt span .strictDelete
  | _, _ => return ()

/-- Whether a token after `await` makes it a name. -/
def endsAwait : Token → Bool
  | .punct p => [")", "]", ";", ","].contains p
  | _ => false

/-- An expression of unary operators; `n` bounds their number. -/
def unary (rules : Rules) (canBeArrow : Bool) : Nat → Reader Node
  | 0 => fail .tooDeep
  | n + 1 => do
    let l ← needToken
    let lo := l.span.lo
    match ← unaryOperator? with
    | some op =>
      bump
      let arg ← unary rules false n
      checkDelete op arg
      return .unary (← spanFrom lo) op arg
    | none =>
      if l.token = .punct "++" || l.token = .punct "--" then
        bump
        let arg ← unary rules false n
        if !isSimpleTarget arg then
          noteAt arg.span .notAssignable
        return .update (← spanFrom lo) (shown l.token) true arg
      if l.token = .word "await" false then
        bump
        let scope ← read
        if !scope.inAsync && endsAwait (← cur).token then
          if scope.isModule then
            noteAt l.span .identifierExpected
          return .ident l.span "await"
        if scope.inFunction && !scope.inAsync then
          noteAt l.span .awaitNotAllowed
        let arg ← unary rules false n
        return .awaitExpr (← spanFrom lo) arg
      let e ← leftSide rules canBeArrow (← fuel)
      if isArrowNode e then
        return e
      let after ← cur
      if !after.afterBreak && (after.token = .punct "++" || after.token = .punct "--") then
        if !isSimpleTarget e then
          noteAt e.span .notAssignable
        bump
        return .update (← spanFrom lo) (shown after.token) false e
      return e

/-- The precedence of the binary operators. -/
def precedence : String → Nat
  | "??" => 1
  | "||" => 1
  | "&&" => 2
  | "|" => 3
  | "^" => 4
  | "&" => 5
  | "==" | "!=" | "===" | "!==" => 6
  | "<" | "<=" | ">" | ">=" | "instanceof" | "in" => 7
  | "<<" | ">>" | ">>>" => 8
  | "+" | "-" => 9
  | "*" | "/" | "%" => 10
  | "**" => 11
  | _ => 0

/-- The binary operator at the next token. -/
def binaryOperator? : Reader (Option String) := do
  let allowsIn := (← read).allowsIn
  return match (← cur).token with
    | .punct text => if precedence text = 0 then none else some text
    | .word "instanceof" false => some "instanceof"
    | .word "in" false => if allowsIn then some "in" else none
    | _ => none

/-- Whether an expression is made by an operator that cannot be mixed with `op`. -/
def clashes (op : String) : Node → Bool
  | .binary _ o _ _ =>
    (op = "??" && (o = "||" || o = "&&")) || ((op = "||" || op = "&&") && o = "??")
  | _ => false

/-- Whether an expression is made by a unary operator. -/
def isUnaryNode : Node → Bool
  | .unary _ _ _ | .awaitExpr _ _ => true
  | _ => false

/-- The operators of more than a given precedence after an expression that starts at `lo`;
`n` bounds their number. -/
def operators (rules : Rules) : Nat → Nat → Nat → Node → Reader Node
  | 0, _, _, left => return left
  | n + 1, least, lo, left => do
    match ← binaryOperator? with
    | none => return left
    | some op =>
      let p := precedence op
      if p ≤ least then
        return left
      if op = "**" && isUnaryNode left then
        failAt left.span .powerOperand
      bump
      let rightLo ← position
      let first ← unary rules false (← fuel)
      let right ← operators rules n (if op = "**" then p - 1 else p) rightLo first
      if clashes op left || clashes op right then
        noteAt ⟨lo, (← lastEnd)⟩ .mixedNullish
      operators rules n least lo (.binary (← spanFrom lo) op left right)

/-- An expression of binary operators. -/
def binary (rules : Rules) : Reader Node := do
  let lo ← position
  let first ← unary rules true (← fuel)
  if isArrowNode first then
    return first
  operators rules (← fuel) 0 lo first

/-- A conditional expression. -/
def conditional (rules : Rules) : Reader Node := do
  let lo ← position
  let test ← binary rules
  if isArrowNode test then
    return test
  if ← eat "?" then
    let yes ← inBrackets (rules .assignment)
    expect ":"
    let no ← rules .assignment
    return .conditional (← spanFrom lo) test yes no
  return test

/-- The operators of assignments. -/
def assignOperators : List String :=
  ["=", "+=", "-=", "*=", "/=", "%=", "**=", "<<=", ">>=", ">>>=", "&=", "|=", "^=", "&&=", "||=",
    "??="]

/-- Whether an expression cannot be the left side of an assignment, and ends before one. -/
def isClosed : Node → Bool
  | .conditional _ _ _ _ | .binary _ _ _ _ | .unary _ _ _ | .update _ _ _ _ | .arrow _ _ _ _ => true
  | _ => false

/-- A `yield` expression. -/
def yieldFrom (rules : Rules) : Reader Node := do
  let lo ← position
  expectWord "yield"
  let l ← cur
  let ends : Bool := match l.token with
    | .eof => true
    | .punct p => [")", "]", "\x7d", ",", ";", ":", "?"].contains p
    | .word w _ => w = "in" || w = "of"
    | _ => false
  if ends || l.afterBreak then
    return .yieldExpr (← spanFrom lo) none false
  let isDelegate ← eat "*"
  let arg ← rules .assignment
  return .yieldExpr (← spanFrom lo) (some arg) isDelegate

/-- An expression without a comma. -/
def assignment (rules : Rules) : Reader Node := do
  let lo ← position
  if (← isWord "yield") && (← read).inGenerator then
    return ← yieldFrom rules
  let left ← conditional rules
  if isClosed left then
    return left
  match (← cur).token with
  | .punct op =>
    if assignOperators.contains op then
      let target ← do
        if op = "=" && isPatternForm left then
          let depth ← patternDepth
          toPattern false depth left
        else
          checkTarget left
          pure left
      bump
      let value ← rules .assignment
      return .assign (← spanFrom lo) op target value
    else
      return left
  | _ => return left

/-- An expression. -/
def expression (rules : Rules) : Reader Node := do
  let lo ← position
  let first ← rules .assignment
  if ← isPunct "," then
    let n ← fuel
    let more ← many (do
      if ← eat "," then
        return some (← rules .assignment)
      return none) n
    return .sequence (← spanFrom lo) (first :: more)
  return first

end DocPreview.Script.Reader
