import DocPreview.Markup.Line

/-!
# Problems of markup

What can be wrong with the markup of a document, and where. A problem is a cause; its wording
stands in `Problem.reason`, and the rule that it breaks in `Problem.rule`.
-/

namespace DocPreview.Markup

/-- A place inside a tag. -/
inductive TagPlace where
  | beforeName
  | beforeClosingName
  | inName
  | afterName
  | beforeMemberName
  | inMemberName
  | afterMemberName
  | beforeLocalName
  | inLocalName
  | afterLocalName
  | beforeAttribute
  | inAttribute
  | afterAttribute
  | beforeLocalAttribute
  | inLocalAttribute
  | afterLocalAttribute
  | beforeValue
  | afterSlash
  deriving Repr, DecidableEq

namespace TagPlace

/-- What a name, a member name or a local name is made of. -/
def namePart : String :=
  "a name character such as letters, digits, \x60$\x60, or \x60_\x60; whitespace before " ++
    "attributes; or the end of the tag"

/-- What comes after the name of a tag. -/
def afterNamePart : String :=
  "a character that can start an attribute name, such as a letter, \x60$\x60, or \x60_\x60; " ++
    "whitespace before attributes; or the end of the tag"

/-- What starts a name. -/
def nameStart : String :=
  "a character that can start a name, such as a letter, \x60$\x60, or \x60_\x60"

/-- What the name of an attribute is made of. -/
def attributePart : String :=
  "an attribute name character such as letters, digits, \x60$\x60, or \x60_\x60; \x60=\x60 to " ++
    "initialize a value; whitespace before attributes; or the end of the tag"

/-- What comes after the name of an attribute. -/
def afterAttributePart : String :=
  "a character that can start an attribute name, such as a letter, \x60$\x60, or \x60_\x60; " ++
    "\x60=\x60 to initialize a value; or the end of the tag"

/-- The words for a place. -/
def words : TagPlace → String
  | beforeName | beforeClosingName => "before name"
  | inName => "in name"
  | afterName => "after name"
  | beforeMemberName => "before member name"
  | inMemberName => "in member name"
  | afterMemberName => "after member name"
  | beforeLocalName => "before local name"
  | inLocalName => "in local name"
  | afterLocalName => "after local name"
  | beforeAttribute => "before attribute name"
  | inAttribute => "in attribute name"
  | afterAttribute => "after attribute name"
  | beforeLocalAttribute => "before local attribute name"
  | inLocalAttribute => "in local attribute name"
  | afterLocalAttribute => "after local attribute name"
  | beforeValue => "before attribute value"
  | afterSlash => "after self-closing slash"

/-- What could stand at a place. -/
def wanted : TagPlace → String
  | beforeName | beforeClosingName | beforeLocalName => nameStart
  | inName | inMemberName | inLocalName => namePart
  | afterName | beforeMemberName | afterMemberName | afterLocalName | beforeAttribute =>
    afterNamePart
  | inAttribute | inLocalAttribute => attributePart
  | afterAttribute | beforeLocalAttribute | afterLocalAttribute => afterAttributePart
  | beforeValue =>
    "a character that can start an attribute value, such as \x60\"\x60, \x60'\x60, or \x60\x7b\x60"
  | afterSlash => "\x60>\x60 to end the tag"

/-- A hint for what a character at a place may have been meant for. -/
def note (place : TagPlace) (c : Char) : String :=
  let link := " (note: to create a link in MDX, use \x60[text](url)\x60)"
  let comment := " (note: JS comments in JSX tags are not supported in MDX)"
  match place with
  | beforeName =>
    if c = '!' then " (note: to create a comment in MDX, use \x60\x7b/* text */\x7d\x60)" else ""
  | beforeClosingName | afterSlash => if c = '*' || c = '/' then comment else ""
  | inName | inMemberName => if c = '@' then link else ""
  | beforeLocalName => if c = '+' || c = '/' || c.isDigit then link else ""
  | beforeValue =>
    if c = '<' then
      " (note: to use an element or fragment as a prop value in MDX, use " ++
        "\x60\x7b<element />\x7d\x60)"
    else ""
  | _ => ""

end TagPlace

/-- What is wrong with the markup of a document. -/
inductive Problem where
  | unexpectedCharacter (found : Char) (place : TagPlace)
  | unclosedExpression
  /-- A script between braces that cannot be read. -/
  | badExpression (message : String)
  /-- Imports and exports that cannot be read. -/
  | badModule (message : String)
  | statementInModule
  | noSpread
  | spreadWithMore
  | lazyTag
  | lazyExpression
  | closingWithoutOpening
  | attributeInClosing
  | slashInClosing
  /-- A closing tag for another element than the one that is open. -/
  | wrongClosing (found opened : String) (start : Point)
  /-- An element that is open at the end of what it is in. -/
  | unclosedTag (opened : String) (start : Point) (group : Option String)
  /-- A closing tag inside something that is itself inside the element. -/
  | closingInside (opened group : String) (start : Point)
  | secondLayout (first stop : Point)
  deriving Repr, DecidableEq

namespace Problem

/-- A character with its code. -/
def shown (c : Char) : String :=
  let digits := (Nat.toDigits 16 c.toNat).map Char.toUpper
  let code := String.ofList (List.replicate (4 - digits.length) '0' ++ digits)
  let quoted := if c = '\x60' then "\x60\x60 \x60 \x60\x60" else "\x60" ++ c.toString ++ "\x60"
  "character " ++ quoted ++ " (U+" ++ code ++ ")"

/-- The wording of a problem. -/
def reason : Problem → String
  | unexpectedCharacter c place =>
    "Unexpected " ++ shown c ++ " " ++ place.words ++ ", expected " ++ place.wanted ++ place.note c
  | unclosedExpression =>
    "Unexpected end of file in expression, expected a corresponding closing brace for \x60\x7b\x60"
  | badExpression message => "Could not parse expression with swc: " ++ message
  | badModule message => "Could not parse esm with swc: " ++ message
  | statementInModule => "Unexpected statement in code: only import/exports are supported"
  | noSpread =>
    "Unexpected prop in spread (such as \x60\x7bx\x7d\x60): only a spread is supported (such as " ++
      "\x60\x7b...x\x7d\x60)"
  | spreadWithMore =>
    "Unexpected extra content in spread (such as \x60\x7b...x,y\x7d\x60): only a single spread " ++
      "is supported (such as \x60\x7b...x\x7d\x60)"
  | lazyTag =>
    "Unexpected lazy line in jsx in container, expected line to be prefixed with \x60>\x60 when " ++
      "in a block quote, whitespace when in a list, etc"
  | lazyExpression =>
    "Unexpected lazy line in expression in container, expected line to be prefixed with " ++
      "\x60>\x60 when in a block quote, whitespace when in a list, etc"
  | closingWithoutOpening => "Unexpected closing slash \x60/\x60 in tag, expected an open tag first"
  | attributeInClosing => "Unexpected attribute in closing tag, expected the end of the tag"
  | slashInClosing =>
    "Unexpected self-closing slash \x60/\x60 in closing tag, expected the end of the tag"
  | wrongClosing found opened start =>
    "Unexpected closing tag \x60" ++ found ++ "\x60, expected corresponding closing tag for \x60" ++
      opened ++ "\x60 (" ++ start.text ++ ")"
  | unclosedTag opened start group =>
    "Expected a closing tag for \x60" ++ opened ++ "\x60 (" ++ start.text ++ ")" ++
      match group with
      | none => ""
      | some g => " before the end of \x60" ++ g ++ "\x60"
  | closingInside opened group start =>
    "Expected the closing tag \x60" ++ opened ++ "\x60 either before the start of \x60" ++ group ++
      "\x60 (" ++ start.text ++ "), or another opening tag after that start"
  | secondLayout first stop =>
    "Cannot specify multiple layouts (previous: " ++ first.text ++ "-" ++ stop.text ++ ")"

/-- The rule that a problem breaks. -/
def rule : Problem → String
  | unexpectedCharacter _ _ => "markdown-rs:unexpected-character"
  | unclosedExpression => "markdown-rs:unexpected-eof"
  | badExpression _ | badModule _ | statementInModule | noSpread | spreadWithMore => "mdxjs-rs:swc"
  | lazyTag | lazyExpression => "markdown-rs:unexpected-lazy"
  | closingWithoutOpening => "markdown-rs:unexpected-closing-slash"
  | attributeInClosing => "markdown-rs:unexpected-attribute"
  | slashInClosing => "markdown-rs:unexpected-self-closing-slash"
  | wrongClosing _ _ _ | unclosedTag _ _ _ | closingInside _ _ _ => "markdown-rs:end-tag-mismatch"
  | secondLayout _ _ => "mdxjs-rs:double-layout"

end Problem

/-- A problem with its place. -/
structure Failure where
  start : Point
  /-- The end of the place, if it is more than a point. -/
  stop : Option Point
  problem : Problem
  deriving Repr, DecidableEq

/-- A failure at a point. -/
def Failure.at (p : Point) (problem : Problem) : Failure := ⟨p, none, problem⟩

/-- The text of a failure: the place, the wording and the rule. -/
def Failure.message (f : Failure) : String :=
  f.start.text ++
    (match f.stop with
      | none => ""
      | some p => "-" ++ p.text) ++
    ": " ++ f.problem.reason ++ " (" ++ f.problem.rule ++ ")"

end DocPreview.Markup
