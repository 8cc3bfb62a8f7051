import DocPreview.Script.Reader.Pattern

/-!
# Functions and classes of scripts

Parameters, bodies, methods and the members of classes.
-/

namespace DocPreview.Script.Reader

/-- Statements up to a closing brace. If the text ends before it, this is noted. -/
def statementsToBrace (rules : Rules) : Reader (List Node) := do
  let n ← fuel
  let body ← many (do
    if ← isPunct "\x7d" then
      return none
    if (← cur).token = .eof then
      note (.expected "\x7d" "<eof>")
      return none
    return some (← rules .statement)) n
  let _ ← eat "\x7d"
  return body

/-- The scope of the body of a function. -/
def Scope.ofFunction (isAsync isGenerator : Bool) (s : Scope) : Scope :=
  { s with
    inFunction := true
    allowsReturn := true
    inAsync := isAsync
    inGenerator := isGenerator
    allowsNewTarget := true
    allowsIn := true
    inLoop := false
    inSwitch := false
    labels := []
    isTopLevel := false }

/-- The scope of a function that is no method. -/
def Scope.withoutSuper (s : Scope) : Scope :=
  { s with allowsSuper := false, allowsSuperCall := false }

/-- The parameters of a function. -/
def parameters (rules : Rules) : Reader (List Node) := do
  expect "("
  list (do
    let e ← bindingElement rules
    checkRest e
    return e) ")"

/-- The body of a function. A directive at its start makes it strict. -/
def functionBody (rules : Rules) : Reader (List Node) := do
  expect "\x7b"
  match (← cur).token with
  | .string "use strict" _ =>
    within (fun s => { s with isStrict := true }) (statementsToBrace rules)
  | _ => statementsToBrace rules

/-- The parameters and the body of a function that starts at `lo`. -/
def functionRest (rules : Rules) (lo : Nat) (name : Option Node) (isAsync isGenerator : Bool) :
    Reader Node :=
  within (Scope.ofFunction isAsync isGenerator) do
    let params ← parameters rules
    let body ← functionBody rules
    return .function (← spanFrom lo) name params body isAsync isGenerator

/-- A function expression or declaration from the word `function` on. The name is needed for a
declaration, unless it is exported as the default. -/
def functionFrom (rules : Rules) (lo : Nat) (isAsync needsName : Bool) : Reader Node := do
  expectWord "function"
  let isGenerator ← eat "*"
  let name ← do
    if needsName then
      pure (some (← bindingName))
    else
      match (← cur).token with
      | .word _ _ => pure (some (← bindingName))
      | _ => pure none
  within Scope.withoutSuper (functionRest rules lo name isAsync isGenerator)

/-- The parameters and the body of a method. -/
def methodRest (rules : Rules) (isAsync isGenerator allowsSuperCall : Bool) : Reader Node := do
  let lo ← position
  within (fun s => { s with allowsSuper := true, allowsSuperCall := allowsSuperCall })
    (functionRest rules lo none isAsync isGenerator)

/-- Notes a wrong number of parameters of a getter or a setter. -/
def checkAccessor (kind : MethodKind) (span : Span) (fn : Node) : Reader Unit :=
  match kind, fn with
  | .getter, .function _ _ (_ :: _) _ _ _ => noteAt span .getterParameters
  | .setter, .function _ _ params _ _ _ =>
    if params.length = 1 then return () else noteAt span .setterParameters
  | _, _ => return ()

/-- Whether a token can start the key of a member. -/
def startsKey : Token → Bool
  | .word _ _ | .privateName _ | .string _ _ | .number _ | .bigInt _ => true
  | .punct text => text = "["
  | _ => false

/-- The modifiers before the key of a member. -/
structure Modifiers where
  isAsync : Bool
  isGenerator : Bool
  kind : MethodKind
  deriving Repr, DecidableEq

/-- Reads the modifiers before the key of a member. A word is a modifier only if a key follows. -/
def modifiers : Reader Modifiers := do
  let after ← peek
  if ← isWord "async" then
    if !after.afterBreak && (startsKey after.token || after.token = .punct "*") then
      bump
      return ⟨true, ← eat "*", .method⟩
  if ← eat "*" then
    return ⟨false, true, .method⟩
  if startsKey after.token then
    if ← eatWord "get" then
      return ⟨false, false, .getter⟩
    if ← eatWord "set" then
      return ⟨false, false, .setter⟩
  return ⟨false, false, .method⟩

/-- Whether a key is the given name. -/
def isKey (name : String) : Node → Bool
  | .ident _ n => n = name
  | .string _ v _ => v = name
  | _ => false

/-- Notes a constructor that cannot be one. -/
def checkConstructor (isStatic : Bool) (m : Modifiers) (key : Node) : Reader Unit := do
  if isKey "constructor" key && !isStatic then
    if m.kind ≠ .method then
      noteAt key.span .accessorConstructor
    if m.isGenerator then
      noteAt key.span .generatorConstructor
    if m.isAsync then
      noteAt key.span .asyncConstructor

/-- A method or a field after its modifiers. -/
def classMember (rules : Rules) (lo : Nat) (isStatic hasBase : Bool) : Reader Node := do
  let m ← modifiers
  let key ← memberKey rules
  if let .privateName span "constructor" := key then
    noteAt span .privateConstructor
  if ← isPunct "(" then
    checkConstructor isStatic m key
    let isConstructor := isKey "constructor" key && !isStatic
    let fn ← methodRest rules m.isAsync m.isGenerator (isConstructor && hasBase)
    checkAccessor m.kind key.span fn
    return .method (← spanFrom lo) m.kind isStatic key fn
  if m.isAsync || m.isGenerator || m.kind ≠ .method then
    expect "("
  if isKey "constructor" key then
    noteAt key.span .fieldConstructor
  let value ← do
    if ← eat "=" then
      pure (some (← within (fun s =>
        { Scope.ofFunction false false s with allowsSuper := true }) (rules .assignment)))
    else
      pure none
  expectEnd
  return .field (← spanFrom lo) isStatic key value

/-- A member of a class; `hasBase` tells whether the class extends another one. -/
def classItem (rules : Rules) (hasBase : Bool) : Reader (Option Node) := do
  let l ← needToken
  let lo := l.span.lo
  if l.token = .punct "\x7d" then
    return none
  let after ← peek
  if l.token = .word "static" false then
    if after.token = .punct "\x7b" then
      bump
      bump
      let body ← within (fun s => { Scope.ofFunction false false s with allowsSuper := true })
        (statementsToBrace rules)
      return some (.staticBlock (← spanFrom lo) body)
    if startsKey after.token || after.token = .punct "*" then
      bump
      return some (← classMember rules lo true hasBase)
  return some (← classMember rules lo false hasBase)

/-- The members of a class after its opening brace. -/
def classBody (rules : Rules) (hasBase : Bool) : Reader (List Node) := do
  let n ← fuel
  let members ← many (do
    let _ ← many (do return if ← eat ";" then some () else none) (← fuel)
    classItem rules hasBase) n
  expect "\x7d"
  let isConstructor : Node → Bool
    | .method _ .method false key _ => isKey "constructor" key
    | _ => false
  if let _ :: second :: _ := members.filter isConstructor then
    noteAt second.span .duplicateConstructor
  return members

/-- A class from the word `class` on. The base is read by `baseClass`. -/
def classFrom (rules : Rules) (baseClass : Reader Node) (needsName : Bool) : Reader Node :=
    within (fun s => { s with isStrict := true }) do
  let lo ← position
  expectWord "class"
  let name ← do
    let l ← cur
    match l.token with
    | .word w _ =>
      if w = "extends" && !needsName then pure none else pure (some (← bindingName))
    | _ => if needsName then pure (some (← bindingName)) else pure none
  let base ← do
    if ← eatWord "extends" then
      pure (some (← baseClass))
    else
      pure none
  expect "\x7b"
  let members ← classBody rules base.isSome
  return .classNode (← spanFrom lo) name base members

end DocPreview.Script.Reader
