import DocPreview.Text.Basic

/-!
# Problems of YAML texts

What can be wrong with a text in YAML, where, and in what. A problem is a cause; its wording
stands in `Problem.words`, and that of what was being read in `Activity.words`.
-/

namespace DocPreview.Yaml

/-- A place in a text: the number of characters before it, its line and its column, from zero. -/
structure Mark where
  index : Nat
  line : Nat
  column : Nat
  deriving Repr, DecidableEq, Inhabited

namespace Mark

/-- The start of a text. -/
def start : Mark := ⟨0, 0, 0⟩

/-- Whether a place has a line and a column to be told. -/
def isShown (m : Mark) : Bool := m.line ≠ 0 || m.column ≠ 0

/-- Whether two places have the same line and column. -/
def isSamePlace (a b : Mark) : Bool := a.line = b.line && a.column = b.column

/-- The text of a place, with lines and columns counted from one. -/
def text (m : Mark) : String :=
  "line " ++ toString (m.line + 1) ++ " column " ++ toString (m.column + 1)

end Mark

/-- What was being read when a problem was found. -/
inductive Activity where
  | nextToken
  | simpleKey
  | directive
  | versionDirective
  | tagDirective
  | tagDirectiveHandle
  | tagDirectiveUri
  | anchor
  | aliasName
  | tag
  | tagUri
  | blockScalar
  | quotedScalar
  | escapedCharacter
  | plainScalar
  | node
  | blockNode
  | flowNode
  | blockSequence
  | blockMapping
  | flowSequence
  | flowMapping
  deriving Repr, DecidableEq

/-- The words for an activity. -/
def Activity.words : Activity → String
  | nextToken => "while scanning for the next token"
  | simpleKey => "while scanning a simple key"
  | directive => "while scanning a directive"
  | versionDirective => "while scanning a %YAML directive"
  | tagDirective => "while scanning a %TAG directive"
  | tagDirectiveHandle => "while scanning a tag directive"
  | tagDirectiveUri => "while parsing a %TAG directive"
  | anchor => "while scanning an anchor"
  | aliasName => "while scanning an alias"
  | tag => "while scanning a tag"
  | tagUri => "while parsing a tag"
  | blockScalar => "while scanning a block scalar"
  | quotedScalar => "while scanning a quoted scalar"
  | escapedCharacter => "while parsing a quoted scalar"
  | plainScalar => "while scanning a plain scalar"
  | node => "while parsing a node"
  | blockNode => "while parsing a block node"
  | flowNode => "while parsing a flow node"
  | blockSequence => "while parsing a block collection"
  | blockMapping => "while parsing a block mapping"
  | flowSequence => "while parsing a flow sequence"
  | flowMapping => "while parsing a flow mapping"

/-- What is wrong with a text in YAML. -/
inductive Problem where
  | controlCharacter
  | noToken
  | noColon
  | entryNotAllowed
  | keyNotAllowed
  | valueNotAllowed
  | unknownDirective
  | noDirectiveName
  | badDirectiveName
  | noLineBreak
  | noVersionNumber
  | longVersionNumber
  | noVersionDot
  | noWhitespace
  | noWhitespaceOrBreak
  | noAnchorName
  | noExclamation
  | noTagEnd
  | noUri
  | noUriOctet
  | badLeadingOctet
  | badTrailingOctet
  | zeroIndentation
  | tabInIndentation
  | tabBeforeScalar
  | documentInScalar
  | unclosedScalar
  | unknownEscape
  | noHexNumber
  | badCodePoint
  | unexpectedColon
  | noDocumentStart
  | secondVersion
  | badVersion
  | secondTagDirective
  | undefinedHandle
  | noContent
  | noEntry
  | noKey
  | noSequenceEnd
  | noMappingEnd
  deriving Repr, DecidableEq

/-- The words for a problem. -/
def Problem.words : Problem → String
  | controlCharacter => "control characters are not allowed"
  | noToken => "found character that cannot start any token"
  | noColon => "could not find expected ':'"
  | entryNotAllowed => "block sequence entries are not allowed in this context"
  | keyNotAllowed => "mapping keys are not allowed in this context"
  | valueNotAllowed => "mapping values are not allowed in this context"
  | unknownDirective => "found unknown directive name"
  | noDirectiveName => "could not find expected directive name"
  | badDirectiveName => "found unexpected non-alphabetical character"
  | noLineBreak => "did not find expected comment or line break"
  | noVersionNumber => "did not find expected version number"
  | longVersionNumber => "found extremely long version number"
  | noVersionDot => "did not find expected digit or '.' character"
  | noWhitespace => "did not find expected whitespace"
  | noWhitespaceOrBreak => "did not find expected whitespace or line break"
  | noAnchorName => "did not find expected alphabetic or numeric character"
  | noExclamation => "did not find expected '!'"
  | noTagEnd => "did not find the expected '>'"
  | noUri => "did not find expected tag URI"
  | noUriOctet => "did not find URI escaped octet"
  | badLeadingOctet => "found an incorrect leading UTF-8 octet"
  | badTrailingOctet => "found an incorrect trailing UTF-8 octet"
  | zeroIndentation => "found an indentation indicator equal to 0"
  | tabInIndentation => "found a tab character where an indentation space is expected"
  | tabBeforeScalar => "found a tab character that violates indentation"
  | documentInScalar => "found unexpected document indicator"
  | unclosedScalar => "found unexpected end of stream"
  | unknownEscape => "found unknown escape character"
  | noHexNumber => "did not find expected hexdecimal number"
  | badCodePoint => "found invalid Unicode character escape code"
  | unexpectedColon => "found unexpected ':'"
  | noDocumentStart => "did not find expected <document start>"
  | secondVersion => "found duplicate %YAML directive"
  | badVersion => "found incompatible YAML document"
  | secondTagDirective => "found duplicate %TAG directive"
  | undefinedHandle => "found undefined tag handle"
  | noContent => "did not find expected node content"
  | noEntry => "did not find expected '-' indicator"
  | noKey => "did not find expected key"
  | noSequenceEnd => "did not find expected ',' or ']'"
  | noMappingEnd => "did not find expected ',' or '\x7d'"

/-- A problem with its place, and what was being read from where on. -/
structure Failure where
  problem : Problem
  place : Mark
  /-- The number of bytes before a character that is not allowed at all. -/
  offset : Nat
  reading : Option (Activity × Mark)
  deriving Repr, DecidableEq

/-- The text of a failure. -/
def Failure.message (f : Failure) : String :=
  f.problem.words ++
    (if f.place.isShown then " at " ++ f.place.text
    else if f.offset ≠ 0 then " at position " ++ toString f.offset
    else "") ++
    match f.reading with
    | none => ""
    | some (activity, m) =>
      ", " ++ activity.words ++
        if m.isShown && !m.isSamePlace f.place then " at " ++ m.text else ""

end DocPreview.Yaml
