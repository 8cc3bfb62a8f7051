import DocPreview.Script.Reader.Name

/-!
# Patterns of scripts

A pattern stands where something is bound. In a declaration it is read as one; in an assignment
and before an arrow it is first read as an expression and then turned into a pattern.
-/

namespace DocPreview.Script.Reader

/-- The value that stands in for `undefined`, if there is one. -/
def withDefault (rules : Rules) (lo : Nat) (target : Node) : Reader Node := do
  if ← eat "=" then
    let value ← within (fun s => { s with allowsIn := true }) (rules .assignment)
    return .initialized (← spanFrom lo) target value
  return target

/-- An element of a pattern: a rest, or a pattern with perhaps a default. -/
def bindingElement (rules : Rules) : Reader Node := do
  let lo ← position
  if ← eat "..." then
    let target ← rules .binding
    return .spread (← spanFrom lo) target
  withDefault rules lo (← rules .binding)

/-- Notes a comma after a rest, which must be the last element. -/
def checkRest (n : Node) : Reader Unit := do
  match n with
  | .spread _ _ =>
    if ← isPunct "," then
      note .commaAfterRest
  | _ => return ()

/-- An array pattern after its opening bracket. -/
def arrayPattern (rules : Rules) (lo : Nat) : Reader Node := do
  let n ← fuel
  let items ← many (do
    if ← isPunct "]" then
      return none
    if ← eat "," then
      return some Node.hole
    let e ← bindingElement rules
    checkRest e
    if !(← isPunct "]") then
      expect ","
    return some e) n
  expect "]"
  return .array (← spanFrom lo) items

/-- A member of an object pattern. -/
def patternMember (rules : Rules) : Reader Node := do
  let l ← needToken
  let lo := l.span.lo
  if ← eat "..." then
    let target ← rules .binding
    return .spread (← spanFrom lo) target
  let key ← memberKey rules
  if ← eat ":" then
    let elementLo ← position
    let value ← withDefault rules elementLo (← rules .binding)
    return .keyValue (← spanFrom lo) key value
  match l.token, key with
  | .word word _, .ident span _ =>
    checkBound span word
    let name ← nameOf span word
    withDefault rules lo name
  | _, _ => fail (.expected ":" (shown (← cur).token))

/-- A name or a destructuring pattern. -/
def bindingPattern (rules : Rules) : Reader Node := do
  let l ← needToken
  match l.token with
  | .punct "[" =>
    bump
    arrayPattern rules l.span.lo
  | .punct "\x7b" =>
    bump
    let members ← list (do
      let m ← patternMember rules
      checkRest m
      return m) "\x7d"
    return .object (← spanFrom l.span.lo) members
  | _ => bindingName

/-- Whether an expression can be assigned to as it is. -/
def isSimpleTarget : Node → Bool
  | .ident _ _ | .member _ _ _ false | .index _ _ _ false => true
  | .paren _ e => isSimpleTarget e
  | _ => false

/-- Whether an expression is the left side of a destructuring assignment. -/
def isPatternForm : Node → Bool
  | .array _ _ | .object _ _ => true
  | _ => false

/-- A target of an assignment checked, with problems noted. -/
def checkTarget (n : Node) : Reader Unit :=
  match n with
  | .ident span name => checkBound span name
  | n => if isSimpleTarget n then return () else noteAt n.span .notAssignable

/-- An expression turned into a pattern; `binds` tells whether it must bind names only, and
`depth` bounds the nesting. -/
def toPattern (binds : Bool) : Nat → Node → Reader Node
  | 0, n => return n
  | depth + 1, n =>
    match n with
    | .array span items => do
      return .array span (← items.mapM (toPattern binds depth))
    | .object span members => do
      return .object span (← members.mapM fun m =>
        match m with
        | .keyValue s key value => return .keyValue s key (← toPattern binds depth value)
        | .ident _ _ => toPattern binds depth m
        | .initialized s target value =>
          return .initialized s (← toPattern binds depth target) value
        | .spread s arg => return .spread s (← toPattern binds depth arg)
        | _ => failAt m.span .notPattern)
    | .assign span "=" target value => do
      return .initialized span (← toPattern binds depth target) value
    | .initialized span target value => return .initialized span target value
    | .spread span arg => return .spread span (← toPattern binds depth arg)
    | .hole => return .hole
    | .paren _ e =>
      if binds then failAt n.span .notPattern
      else do
        checkTarget e
        return n
    | .ident span name => do
      checkBound span name
      return n
    | _ =>
      if binds then failAt n.span .notPattern
      else do
        checkTarget n
        return n

/-- Notes the members of objects that are only allowed in patterns. -/
def checkExpression (n : Node) : Reader Unit :=
  match n with
  | .object _ members =>
    members.forM fun m =>
      match m with
      | .initialized span _ _ => noteAt span .shorthandAssign
      | _ => return ()
  | _ => return ()

end DocPreview.Script.Reader
