import DocPreview.Script.Reader.Basic

/-!
# Names in scripts

Which words are names, which of them can be bound, and the keys of members.
-/

namespace DocPreview.Script.Reader

/-- The words that are never names. -/
def reservedWords : List String :=
  ["break", "case", "catch", "class", "const", "continue", "debugger", "default", "delete", "do",
    "else", "enum", "export", "extends", "false", "finally", "for", "function", "if", "import",
    "in", "instanceof", "new", "null", "return", "super", "switch", "this", "throw", "true", "try",
    "typeof", "var", "void", "while", "with"]

/-- The words that are not names under the stricter rules, but are read as such. -/
def strictWords : List String :=
  ["implements", "interface", "let", "package", "private", "protected", "public", "static"]

/-- Whether a word can stand where an expression names something. -/
def isReference (scope : Scope) (word : String) : Bool :=
  !reservedWords.contains word &&
    (word ≠ "yield" || !(scope.isStrict || scope.inGenerator)) &&
    (word ≠ "await" || !(scope.isStrict || scope.inAsync))

/-- A word read as the name of something, noted if the stricter rules do not allow it. -/
def nameOf (span : Span) (word : String) : Reader Node := do
  if strictWords.contains word then
    noteStrictAt span (.reservedWord word)
  return .ident span word

/-- Notes a name that the stricter rules do not let be bound or assigned to. -/
def checkBound (span : Span) (name : String) : Reader Unit := do
  if name = "eval" || name = "arguments" then
    noteStrictAt span .strictBinding

/-- A name that a declaration or a pattern binds. -/
def bindingName : Reader Node := do
  let l ← needToken
  match l.token with
  | .word word escaped =>
    if reservedWords.contains word then
      if escaped then fail (.escapedReserved word) else fail .identifierExpected
    let scope ← read
    if word = "yield" && !isReference scope word then
      fail .identifierExpected
    if word = "await" && (scope.isModule || scope.inAsync) then
      note .awaitReserved
    checkBound l.span word
    bump
    nameOf l.span word
  | _ => fail .identifierExpected

/-- A name in a label or a module item. -/
def plainName : Reader Node := do
  let l ← needToken
  match l.token with
  | .word word _ =>
    if isReference (← read) word then
      bump
      nameOf l.span word
    else
      fail .identifierExpected
  | _ => fail .identifierExpected

/-- Any word as a name. -/
def anyWord : Reader Node := do
  let l ← needToken
  match l.token with
  | .word word _ =>
    bump
    return .ident l.span word
  | _ => fail .identifierExpected

/-- The name after a point: any word or a private name. -/
def memberName : Reader Node := do
  let l ← needToken
  match l.token with
  | .word word _ =>
    bump
    return .ident l.span word
  | .privateName name =>
    bump
    return .privateName l.span name
  | _ => fail .identifierExpected

/-- The key of a member of an object or a class. -/
def memberKey (rules : Rules) : Reader Node := do
  let l ← needToken
  match l.token with
  | .word word _ =>
    bump
    return .ident l.span word
  | .privateName name =>
    bump
    return .privateName l.span name
  | .string value raw =>
    bump
    return .string l.span value (some raw)
  | .number raw =>
    bump
    return .literal l.span (.number raw)
  | .bigInt raw =>
    bump
    return .literal l.span (.bigInt raw)
  | .punct "[" =>
    bump
    let key ← within (fun s => { s with allowsIn := true }) (rules .assignment)
    expect "]"
    return .computedKey (← spanFrom l.span.lo) key
  | _ => unexpected "identifier, string literal, numeric literal or [ for the computed key"

end DocPreview.Script.Reader
