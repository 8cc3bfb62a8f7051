import DocPreview.Script.Tree

/-!
# What can be wrong with a script

The causes for which a text is not a module, each with its message. A failure is a cause with the
place where it was found.
-/

namespace DocPreview.Script

/-- Why a text is not a module. -/
inductive Problem where
  | unexpectedEnd
  | expected (what got : String)
  | unexpectedToken (got expected : String)
  | unexpectedText (suggestions : String)
  | expressionExpected
  | identifierExpected
  | semicolonExpected
  | statementEndExpected
  | notPattern
  | notExpression
  | notAssignable
  | declarationNotAllowed
  | htmlComment
  | unterminatedComment
  | unterminatedString
  | unterminatedRegex
  | unterminatedTemplate
  | unterminatedJsx
  | unexpectedCharacter (shown : String)
  | invalidIdentifierCharacter
  | legacyDecimal
  | legacyOctal
  | digitExpected (radix : Nat)
  | identifierAfterNumber
  | badEscape
  | hexExpected
  | unicodeEscapeExpected
  | separatorNotAllowed
  | legacyOctalEscape
  | escapedReserved (word : String)
  | reservedWord (word : String)
  | strictBinding
  | strictDelete
  | strictWith
  | moduleItemNotTopLevel
  | importNotAllowed
  | returnNotAllowed
  | breakOutside
  | continueOutside
  | undefinedBreakLabel
  | undefinedContinueLabel
  | duplicateLabel (name : String)
  | superNotAllowed
  | superCallNotAllowed
  | newTargetNotAllowed
  | optionalNewNotAllowed
  | optionalTemplate
  | awaitNotAllowed
  | awaitReserved
  | yieldReserved
  | mixedNullish
  | powerOperand
  | emptyParens
  | spreadInParens
  | commaAfterRest
  | restNotLast
  | multipleDefaults
  | constWithoutValue
  | patternWithoutValue
  | forHeadValue
  | getterParameters
  | setterParameters
  | asyncConstructor
  | generatorConstructor
  | accessorConstructor
  | fieldConstructor
  | privateConstructor
  | duplicateConstructor
  | shorthandAssign
  | exportStringName
  | importStringName (name : String)
  | labeledDeclaration
  | emptyJsxAttribute
  | jsxValueExpected
  | jsxClosingTag (name : String)
  | jsxClosingFragment
  | newlineBeforeArrow
  | throwNewline
  | tooDeep
  deriving Repr, DecidableEq

namespace Problem

/-- The name of a radix in a message. -/
def radixName : Nat → String
  | 2 => "a binary"
  | 8 => "an octal"
  | 16 => "a hexadecimal"
  | _ => "a decimal"

/-- The text of a problem. -/
def message : Problem → String
  | unexpectedEnd => "Unexpected eof"
  | expected what got => "Expected '" ++ what ++ "', got '" ++ got ++ "'"
  | unexpectedToken got wanted => "Unexpected token \x60" ++ got ++ "\x60. Expected " ++ wanted
  | unexpectedText suggestions => "Unexpected token. Did you mean " ++ suggestions ++ "?"
  | expressionExpected => "Expression expected"
  | identifierExpected => "Expected ident"
  | semicolonExpected => "Expected a semicolon"
  | statementEndExpected => "Expected ';', '\x7d' or <eof>"
  | notPattern => "Not a pattern"
  | notExpression => "Not an expression"
  | notAssignable => "Cannot assign to this"
  | declarationNotAllowed => "Declaration is not allowed"
  | htmlComment => "Legacy comments cannot be used in module code"
  | unterminatedComment => "Unterminated block comment"
  | unterminatedString => "Unterminated string constant"
  | unterminatedRegex => "Unterminated regexp literal"
  | unterminatedTemplate => "Unterminated template"
  | unterminatedJsx => "Unterminated JSX contents"
  | unexpectedCharacter shown => "Unexpected character " ++ shown
  | invalidIdentifierCharacter => "Invalid character in identifier"
  | legacyDecimal => "Legacy decimal escape is not permitted in strict mode"
  | legacyOctal => "Legacy octal escape is not permitted in strict mode"
  | digitExpected radix => "Expected " ++ radixName radix ++ " digit"
  | identifierAfterNumber => "Identifier cannot follow number"
  | badEscape => "Bad character escape sequence, expected 4 hex characters"
  | hexExpected => "Expected 2 hex characters"
  | unicodeEscapeExpected => "Expected unicode escape"
  | separatorNotAllowed => "A numeric separator is only allowed between two digits"
  | legacyOctalEscape => "Octal escape sequences are not allowed in template strings"
  | escapedReserved word => "Unexpected escape sequence in reserved word: " ++ word
  | reservedWord word =>
    "\x60" ++ word ++ "\x60 cannot be used as an identifier in strict mode"
  | strictBinding =>
    "'eval' and 'arguments' cannot be used as a binding identifier in strict mode"
  | strictDelete => "'delete' cannot be called on an identifier in strict mode"
  | strictWith => "With statement are not allowed in strict mode"
  | moduleItemNotTopLevel => "'import', and 'export' cannot be used outside of module code"
  | importNotAllowed => "Import is not allowed here"
  | returnNotAllowed => "Return statement is not allowed here"
  | breakOutside =>
    "A 'break' statement can only be used within an enclosing iteration or switch statement"
  | continueOutside =>
    "A 'continue' statement can only be used within an enclosing iteration statement"
  | undefinedBreakLabel =>
    "A 'break' statement can only jump to a label of an enclosing statement"
  | undefinedContinueLabel =>
    "A 'continue' statement can only target a label of an enclosing iteration statement"
  | duplicateLabel name => "Label " ++ name ++ " is already declared"
  | superNotAllowed => "Invalid access to super"
  | superCallNotAllowed => "Invalid \x60super()\x60"
  | newTargetNotAllowed =>
    "'new.target' is only allowed in the body of a function declaration, function expression, " ++
      "or class."
  | optionalNewNotAllowed => "Optional chain cannot appear in the callee of new expressions"
  | optionalTemplate => "Tagged template expressions are not permitted in an optional chain"
  | awaitNotAllowed => "await isn't allowed in non-async function"
  | awaitReserved => "\x60await\x60 cannot be used as an identifier in an async context"
  | yieldReserved => "'yield' cannot be used as a parameter within generator"
  | mixedNullish =>
    "Nullish coalescing operator(??) requires parens when mixing with logical operators"
  | powerOperand => "** cannot be applied to unary expression"
  | emptyParens => "Parenthesized expression cannot be empty"
  | spreadInParens => "Parenthesized expression cannot contain spread operator"
  | commaAfterRest => "Trailing comma isn't permitted after a rest element"
  | restNotLast => "Rest element must be final element"
  | multipleDefaults => "A switch block cannot have multiple defaults"
  | constWithoutValue => "'const' declarations must be initialized"
  | patternWithoutValue => "Destructuring bindings require initializers"
  | forHeadValue => "Unexpected initializer in for in/of loop"
  | getterParameters => "A \x60get\x60 accessor cannot have parameters"
  | setterParameters => "A \x60set\x60 accessor must have exactly one parameter"
  | asyncConstructor => "Constructor can't be an async function"
  | generatorConstructor => "Constructor can't be a generator"
  | accessorConstructor => "Class constructor can't be an accessor"
  | fieldConstructor => "Classes may not have a non-static field named 'constructor'"
  | privateConstructor => "Classes can't have a private field named '#constructor'"
  | duplicateConstructor => "A class can only have one constructor"
  | shorthandAssign => "assignment property is invalid syntax"
  | exportStringName =>
    "A string literal cannot be used as an exported binding without \x60from\x60."
  | importStringName name =>
    "A string literal cannot be used as an imported binding.\n- Did you mean \x60import \x7b \"" ++
      name ++ "\" as foo \x7d\x60?"
  | labeledDeclaration => "Generator or async function cannot be labelled"
  | emptyJsxAttribute => "JSX attributes must only be assigned a non-empty expression"
  | jsxValueExpected => "JSX value should be either an expression or a quoted JSX text"
  | jsxClosingTag name => "Expected corresponding JSX closing tag for <" ++ name ++ ">"
  | jsxClosingFragment => "Expected corresponding JSX closing tag for <>"
  | newlineBeforeArrow => "Unexpected line terminator before arrow"
  | throwNewline => "LineBreak cannot follow 'throw'"
  | tooDeep => "Nesting is too deep"

end Problem

/-- A problem with its place. -/
structure Failure where
  span : Span
  problem : Problem
  deriving Repr, DecidableEq

/-- The width of a character in a column count. -/
def displayWidth (c : Char) : Nat :=
  let n := c.toNat
  if c = '\t' then 4
  else if n < 0x20 || n = 0x7F then 0
  else if n < 0x300 then 1
  else if (n ≤ 0x36F) || (0x200B ≤ n && n ≤ 0x200F) || n = 0xFEFF || n = 0x2028 || n = 0x2029 then 0
  else if (0x1100 ≤ n && n ≤ 0x115F) || (0x2E80 ≤ n && n ≤ 0x303E) || (0x3041 ≤ n && n ≤ 0xA4CF) ||
      (0xAC00 ≤ n && n ≤ 0xD7A3) || (0xF900 ≤ n && n ≤ 0xFAFF) || (0xFE30 ≤ n && n ≤ 0xFE6F) ||
      (0xFF00 ≤ n && n ≤ 0xFF60) || (0xFFE0 ≤ n && n ≤ 0xFFE6) || (0x1F300 ≤ n && n ≤ 0x1F64F) ||
      (0x1F680 ≤ n && n ≤ 0x1F6FF) ||
      (0x1F900 ≤ n && n ≤ 0x1F9FF) || (0x20000 ≤ n && n ≤ 0x3FFFD) then 2
  else 1

/-- The line and the column, both from one, of the position `n` of a text. -/
def lineColumn : Nat → List Char → Nat → Nat → Nat × Nat
  | n + 1, c :: r, line, column =>
    if c = '\n' || (c = '\r' && r.head? != some '\n') then lineColumn n r (line + 1) 1
    else lineColumn n r line (column + displayWidth c)
  | _, _, line, column => (line, column)

/-- The text of a failure in a script with text `source`. -/
def Failure.message (source : List Char) (f : Failure) : String :=
  let (line, column) := lineColumn f.span.lo source 1 1
  toString line ++ ":" ++ toString column ++ ": " ++ f.problem.message

end DocPreview.Script
