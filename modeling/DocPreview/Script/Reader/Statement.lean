import DocPreview.Script.Reader.Expression

/-!
# Statements and module items of scripts

Statements, declarations, and the imports and exports of a module.
-/

namespace DocPreview.Script.Reader

/-! ### Declarations -/

/-- The keyword of a variable declaration at the next token. -/
def varKind? : Reader (Option VarKind) := do
  let l ← cur
  match l.token with
  | .word "var" false => return some .var
  | .word "const" false => return some .const
  | .word "let" false =>
    let after ← peek
    return match after.token with
      | .word w _ => if w = "in" || w = "instanceof" || w = "of" then none else some .letDecl
      | .punct p => if p = "[" || p = "\x7b" then some .letDecl else none
      | _ => none
  | _ => return none

/-- Whether a target must have a value where it is declared. -/
def checkDeclarator (kind : VarKind) (target : Node) : Reader Unit := do
  if kind = .const then
    note .constWithoutValue
  else if isPatternForm target then
    note .patternWithoutValue

/-- A declared target with its value; `inHead` tells whether it may stand in the head of a loop
over the members of something. -/
def declaratorFrom (rules : Rules) (kind : VarKind) (inHead : Bool) : Reader Node := do
  let lo ← position
  let target ← rules .binding
  if ← eat "=" then
    let value ← rules .assignment
    return .declarator (← spanFrom lo) target (some value)
  let ends ← do
    if inHead then
      pure ((← isWord "of") || (← isWord "in"))
    else
      pure false
  if !ends then
    checkDeclarator kind target
  return .declarator (← spanFrom lo) target none

/-- A variable declaration without its end. -/
def varFrom (rules : Rules) (kind : VarKind) (inHead : Bool) : Reader Node := do
  let lo ← position
  bump
  let first ← declaratorFrom rules kind inHead
  let more ← many (do
    if ← eat "," then
      return some (← declaratorFrom rules kind inHead)
    return none) (← fuel)
  return .varDecl (← spanFrom lo) kind (first :: more)

/-- A node with another end. -/
def extendVar (hi : Nat) : Node → Node
  | .varDecl span kind ds => .varDecl ⟨span.lo, hi⟩ kind ds
  | n => n

/-- Passes over tokens up to the end of a statement. -/
def skipToEnd : Reader Unit := do
  let _ ← many (do
    if ← eatEnd then
      return none
    match (← cur).token with
    | .bad _ => return none
    | _ =>
      bump
      return some ()) (← fuel)

/-- Passes over what stands where a statement should have ended. -/
def skipStatement (rules : Rules) : Reader Unit := do
  try
    let _ ← rules .expression
  catch _ => pure ()
  skipToEnd

/-- A variable declaration with its end. -/
def varStatement (rules : Rules) (kind : VarKind) : Reader Node := do
  let d ← varFrom rules kind false
  if !(← eatEnd) then
    note .semicolonExpected
    skipStatement rules
  return extendVar (← lastEnd) d

/-- The base of a class. -/
def classBase (rules : Rules) : Reader Node := do leftSide rules false (← fuel)

/-- A function, class or variable declaration, if one starts here. -/
def declaration? (rules : Rules) : Reader (Option Node) := do
  let lo ← position
  if let some kind := ← varKind? then
    return some (← varStatement rules kind)
  if ← isWord "function" then
    return some (← functionFrom rules lo false true)
  if ← isWord "class" then
    return some (← classFrom rules (classBase rules) true)
  if ← isWord "async" then
    let after ← peek
    if after.token = .word "function" false && !after.afterBreak then
      bump
      return some (← functionFrom rules lo true true)
  return none

/-! ### Statements -/

/-- An expression between parentheses after a keyword. -/
def head (rules : Rules) : Reader Node := do
  expect "("
  let e ← inBrackets (rules .expression)
  expect ")"
  return e

/-- A block, whose opening brace is the next token. -/
def blockFrom (rules : Rules) : Reader Node := do
  let lo ← position
  expect "\x7b"
  let body ← within (fun s => { s with isTopLevel := false }) (statementsToBrace rules)
  return .block (← spanFrom lo) body

/-- A statement that is the body of another one. -/
def nested (rules : Rules) : Reader Node := do
  let n ← within (fun s => { s with isTopLevel := false }) (rules .statement)
  match n with
  | .varDecl span kind _ => if kind ≠ .var then noteAt span .declarationNotAllowed
  | .classNode span _ _ _ => noteAt span .declarationNotAllowed
  | _ => pure ()
  return n

/-- The body of a loop. -/
def loopBody (rules : Rules) : Reader Node :=
  within (fun s => { s with inLoop := true }) (nested rules)

/-- A `for` loop after its parenthesis, with what its head starts with. -/
def forRest (rules : Rules) (lo : Nat) (start : Option Node) : Reader Node := do
  expect ";"
  let test ← do
    if ← isPunct ";" then pure none else pure (some (← rules .expression))
  expect ";"
  let step ← do
    if ← isPunct ")" then pure none else pure (some (← rules .expression))
  expect ")"
  let body ← loopBody rules
  return .forStmt (← spanFrom lo) start test step body

/-- A loop over the members or the values of something, after its target. -/
def forEach (rules : Rules) (lo : Nat) (isAwait : Bool) (target : Node) : Reader Node := do
  if ← eatWord "of" then
    let object ← rules .assignment
    expect ")"
    let body ← loopBody rules
    return .forOf (← spanFrom lo) isAwait target object body
  expectWord "in"
  let object ← rules .expression
  expect ")"
  let body ← loopBody rules
  return .forIn (← spanFrom lo) target object body

/-- A `for` loop. -/
def forFrom (rules : Rules) : Reader Node := do
  let lo ← position
  expectWord "for"
  let isAwait ← eatWord "await"
  expect "("
  if ← isPunct ";" then
    return ← inBrackets (forRest rules lo none)
  if let some kind := ← varKind? then
    let d ← within (fun s => { s with allowsIn := false }) (varFrom rules kind true)
    if (← isWord "of") || (← isWord "in") then
      return ← inBrackets (forEach rules lo isAwait d)
    return ← inBrackets (forRest rules lo (some d))
  let e ← within (fun s => { s with allowsIn := false }) (rules .expression)
  if (← isWord "of") || (← isWord "in") then
    let target ← do
      if isPatternForm e then
        toPattern false (← patternDepth) e
      else
        checkTarget e
        pure e
    return ← inBrackets (forEach rules lo isAwait target)
  inBrackets (forRest rules lo (some e))

/-- The statements of a case up to the next one. -/
def caseBody (rules : Rules) : Reader (List Node) := do
  many (do
    if (← isPunct "\x7d") || (← isWord "case") || (← isWord "default") then
      return none
    if (← cur).token = .eof then
      return none
    return some (← rules .statement)) (← fuel)

/-- A case of a switch. -/
def caseFrom (rules : Rules) : Reader (Option Node) := do
  let lo ← position
  if ← eatWord "case" then
    let test ← inBrackets (rules .expression)
    expect ":"
    let body ← caseBody rules
    return some (.switchCase (← spanFrom lo) (some test) body)
  if ← eatWord "default" then
    expect ":"
    let body ← caseBody rules
    return some (.switchCase (← spanFrom lo) none body)
  return none

/-- A switch. -/
def switchFrom (rules : Rules) : Reader Node := do
  let lo ← position
  expectWord "switch"
  let subject ← head rules
  expect "\x7b"
  let cases ← within (fun s => { s with inSwitch := true, isTopLevel := false })
    (do many (caseFrom rules) (← fuel))
  expect "\x7d"
  let isDefault : Node → Bool
    | .switchCase _ none _ => true
    | _ => false
  if let _ :: second :: _ := cases.filter isDefault then
    noteAt second.span .multipleDefaults
  return .switchStmt (← spanFrom lo) subject cases

/-- A `try` statement. -/
def tryFrom (rules : Rules) : Reader Node := do
  let lo ← position
  expectWord "try"
  let body ← blockFrom rules
  let catchLo ← position
  let handler ← do
    if ← eatWord "catch" then
      let param ← do
        if ← eat "(" then
          let p ← rules .binding
          expect ")"
          pure (some p)
        else
          pure none
      let b ← blockFrom rules
      pure (some (Node.catchClause (← spanFrom catchLo) param b))
    else
      pure none
  let finalizer ← do
    if ← eatWord "finally" then
      pure (some (← blockFrom rules))
    else
      pure none
  if handler.isNone && finalizer.isNone then
    fail (.expected "catch" (shown (← cur).token))
  return .tryStmt (← spanFrom lo) body handler finalizer

/-- The label after `break` or `continue`. -/
def jumpLabel : Reader (Option Node) := do
  if ← canEnd then
    return none
  return some (← plainName)

/-- The name of a label. -/
def labelName : Node → String
  | .ident _ n => n
  | _ => ""

/-- A `break` statement. -/
def breakFrom : Reader Node := do
  let lo ← position
  expectWord "break"
  let label ← jumpLabel
  expectEnd
  let span ← spanFrom lo
  let scope ← read
  match label with
  | none => if !scope.inLoop && !scope.inSwitch then noteAt span .breakOutside
  | some l =>
    if !(scope.labels.any fun p => p.1 = labelName l) then noteAt l.span .undefinedBreakLabel
  return .breakStmt span label

/-- A `continue` statement. -/
def continueFrom : Reader Node := do
  let lo ← position
  expectWord "continue"
  let label ← jumpLabel
  expectEnd
  let span ← spanFrom lo
  let scope ← read
  match label with
  | none => if !scope.inLoop then noteAt span .continueOutside
  | some l =>
    if !(scope.labels.any fun p => p.1 = labelName l && p.2) then
      noteAt l.span .undefinedContinueLabel
  return .continueStmt span label

/-- A statement with a label. -/
def labeledFrom (rules : Rules) : Reader Node := do
  let lo ← position
  let label ← plainName
  expect ":"
  let name := labelName label
  if (← read).labels.any fun p => p.1 = name then
    noteAt label.span (.duplicateLabel name)
  let isLoop := (← isWord "for") || (← isWord "while") || (← isWord "do")
  let body ← within (fun s =>
      { s with labels := (name, isLoop) :: s.labels, isTopLevel := false })
    (rules .statement)
  match body with
  | .function span _ _ _ isAsync isGenerator =>
    if isAsync || isGenerator then noteAt span .labeledDeclaration
  | _ => pure ()
  return .labeled (← spanFrom lo) label body

/-- A `return` or `throw` statement's end, with its expression. -/
def returnFrom (rules : Rules) : Reader Node := do
  let lo ← position
  expectWord "return"
  let arg ← do
    if ← canEnd then pure none else pure (some (← inBrackets (rules .expression)))
  expectEnd
  let span ← spanFrom lo
  if !(← read).allowsReturn then
    noteAt span .returnNotAllowed
  return .returnStmt span arg

/-- A `throw` statement. -/
def throwFrom (rules : Rules) : Reader Node := do
  let lo ← position
  expectWord "throw"
  if (← cur).afterBreak then
    fail .throwNewline
  let arg ← inBrackets (rules .expression)
  expectEnd
  return .throwStmt (← spanFrom lo) arg

/-- A statement that is an expression, or has a label. -/
def expressionStatement (rules : Rules) : Reader Node := do
  let l ← needToken
  let after ← peek
  match l.token with
  | .word w false =>
    if isReference (← read) w && after.token = .punct ":" then
      return ← labeledFrom rules
  | _ => pure ()
  let e ← inBrackets (rules .expression)
  if !(← eatEnd) then
    fail .statementEndExpected
  return .exprStmt (← spanFrom l.span.lo) e

/-- The statements that start with a keyword of their own. -/
def keywordStatement? (rules : Rules) (word : String) (lo : Nat) : Reader (Option Node) := do
  match word with
  | "if" =>
    bump
    let test ← head rules
    let yes ← nested rules
    let no ← do
      if ← eatWord "else" then pure (some (← nested rules)) else pure none
    return some (.ifStmt (← spanFrom lo) test yes no)
  | "for" => return some (← forFrom rules)
  | "while" =>
    bump
    let test ← head rules
    let body ← loopBody rules
    return some (.whileStmt (← spanFrom lo) test body)
  | "do" =>
    bump
    let body ← loopBody rules
    expectWord "while"
    let test ← head rules
    let _ ← eat ";"
    return some (.doWhile (← spanFrom lo) body test)
  | "switch" => return some (← switchFrom rules)
  | "try" => return some (← tryFrom rules)
  | "return" => return some (← returnFrom rules)
  | "throw" => return some (← throwFrom rules)
  | "break" => return some (← breakFrom)
  | "continue" => return some (← continueFrom)
  | "debugger" =>
    bump
    expectEnd
    return some (.debuggerStmt (← spanFrom lo))
  | "with" =>
    noteStrictAt (← here) .strictWith
    bump
    let object ← head rules
    let body ← nested rules
    return some (.withStmt (← spanFrom lo) object body)
  | _ => return none

/-! ### Module items -/

/-- A name of an import or export, which may be a string. -/
def moduleName : Reader Node := do
  let l ← needToken
  match l.token with
  | .string value raw =>
    bump
    return .string l.span value (some raw)
  | _ => anyWord

/-- The name of a module. -/
def moduleSource : Reader Node := do
  let l ← needToken
  match l.token with
  | .string value raw =>
    bump
    return .string l.span value (some raw)
  | _ => unexpected "a string literal"

/-- One import between braces. -/
def importSpecifier : Reader Node := do
  let lo ← position
  let imported ← moduleName
  if ← eatWord "as" then
    let binding ← bindingName
    return .importNamed (← spanFrom lo) (some imported) binding
  match imported with
  | .string span value _ => failAt span (.importStringName value)
  | _ => return .importNamed (← spanFrom lo) none imported

/-- The import specifiers after an optional default. -/
def importRest : Reader (List Node) := do
  let lo ← position
  if ← eat "*" then
    expectWord "as"
    let binding ← bindingName
    return [.importAll (← spanFrom lo) binding]
  expect "\x7b"
  list importSpecifier "\x7d"

/-- An import declaration. -/
def importDeclaration : Reader Node := do
  let lo ← position
  expectWord "import"
  let l ← needToken
  match l.token with
  | .string _ _ =>
    let source ← moduleSource
    expectEnd
    return .importDecl (← spanFrom lo) [] source
  | _ =>
    let specifiers ← do
      match l.token with
      | .word _ _ =>
        let binding ← bindingName
        let first := Node.importDefault binding.span binding
        if ← eat "," then
          pure (first :: (← importRest))
        else
          pure [first]
      | _ => importRest
    expectWord "from"
    let source ← moduleSource
    expectEnd
    return .importDecl (← spanFrom lo) specifiers source

/-- One export between braces. -/
def exportSpecifierFrom : Reader Node := do
  let lo ← position
  let localName ← moduleName
  if ← eatWord "as" then
    let exported ← moduleName
    return .exportSpecifier (← spanFrom lo) localName (some exported)
  return .exportSpecifier (← spanFrom lo) localName none

/-- Notes names of local exports that are no names of bindings. -/
def checkLocalExport (n : Node) : Reader Unit :=
  match n with
  | .exportSpecifier _ (.string span _ _) _ => noteAt span .exportStringName
  | .exportSpecifier _ (.ident span name) _ =>
    if reservedWords.contains name then noteAt span (.reservedWord name) else return ()
  | _ => return ()

/-- A default export after the word `default`. -/
def exportDefault (rules : Rules) (lo : Nat) : Reader Node := do
  let declLo ← position
  if ← isWord "function" then
    let d ← functionFrom rules declLo false false
    return .exportDefaultDecl (← spanFrom lo) d
  if ← isWord "class" then
    let d ← classFrom rules (classBase rules) false
    return .exportDefaultDecl (← spanFrom lo) d
  if ← isWord "async" then
    let after ← peek
    if after.token = .word "function" false && !after.afterBreak then
      bump
      let d ← functionFrom rules declLo true false
      return .exportDefaultDecl (← spanFrom lo) d
  let e ← inBrackets (rules .assignment)
  expectEnd
  return .exportDefaultExpr (← spanFrom lo) e

/-- An export declaration. -/
def exportDeclaration (rules : Rules) : Reader Node := do
  let lo ← position
  expectWord "export"
  let _ ← needToken
  if ← eatWord "default" then
    return ← exportDefault rules lo
  if ← isPunct "*" then
    let starLo ← position
    bump
    if ← eatWord "as" then
      let name ← moduleName
      let space := Node.exportSpace (← spanFrom starLo) name
      expectWord "from"
      let source ← moduleSource
      expectEnd
      return .exportNamed (← spanFrom lo) [space] (some source)
    expectWord "from"
    let source ← moduleSource
    expectEnd
    return .exportAll (← spanFrom lo) source
  if ← eat "\x7b" then
    let specifiers ← list exportSpecifierFrom "\x7d"
    if ← eatWord "from" then
      let source ← moduleSource
      expectEnd
      return .exportNamed (← spanFrom lo) specifiers (some source)
    specifiers.forM checkLocalExport
    expectEnd
    return .exportNamed (← spanFrom lo) specifiers none
  match ← within (fun s => { s with isTopLevel := false }) (declaration? rules) with
  | some d => return .exportDecl (← spanFrom lo) d
  | none => unexpected "\x7b"

/-- Whether an import declaration starts at the word `import`. -/
def startsImport : Reader Bool := do
  let after ← peek
  return after.token ≠ .punct "(" && after.token ≠ .punct "."

/-- A statement, or an item of a module where one can stand. -/
def statement (rules : Rules) : Reader Node := do
  let l ← needToken
  let lo := l.span.lo
  let scope ← read
  match l.token with
  | .punct "\x7b" => blockFrom rules
  | .punct ";" =>
    bump
    return .empty l.span
  | .word word false =>
    if word = "export" || (word = "import" && (← startsImport)) then
      if !scope.isTopLevel then
        failAt l.span .moduleItemNotTopLevel
      if word = "import" then
        return ← importDeclaration
      return ← exportDeclaration rules
    within (fun s => { s with isTopLevel := false }) do
      if let some n := ← keywordStatement? rules word lo then
        return n
      if let some n := ← declaration? rules then
        return n
      expressionStatement rules
  | _ => within (fun s => { s with isTopLevel := false }) (expressionStatement rules)

end DocPreview.Script.Reader
