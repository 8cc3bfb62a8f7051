import DocPreview.Yaml.Scalar
import DocPreview.Yaml.Tag

/-!
# Texts in YAML as tokens

Tokens are read from left to right. Where a structure starts and ends is told by indentation. A
node can turn out to be a key only when the colon after it is read: until then it is a possible
key, and the tokens before which it would stand are not settled.

## Main definitions

* `Scanner`: what has been read, with the structures and the possible keys that are open.
* `Scanner.step`: the next token.
* `tokens`: the tokens of a text up to where it fails.
-/

namespace DocPreview.Yaml

/-- A node that may be a key. -/
structure PossibleKey where
  /-- Whether the node has to be a key. -/
  isRequired : Bool
  /-- The number of tokens before the node. -/
  position : Nat
  mark : Mark
  deriving Repr, DecidableEq

/-- What has been read of a text. -/
structure Scanner where
  cursor : Cursor
  /-- The tokens so far, the latest first. -/
  made : List Token
  /-- The columns of the open block structures, the innermost first. -/
  indents : List Nat
  /-- Whether a node that starts here can be a key. -/
  allowsKey : Bool
  /-- The possible key of each open flow structure and of the block around them, the innermost
  first. -/
  keys : List (Option PossibleKey)
  isDone : Bool
  deriving Repr, DecidableEq

namespace Scanner

/-- The start of a text. -/
def ofText (s : Text) : Scanner := ⟨Cursor.ofText s, [], [], true, [none], false⟩

/-- Whether a flow structure is open. -/
def inFlow (s : Scanner) : Bool := 1 < s.keys.length

/-- A failure at the place that has been reached. -/
def failure (s : Scanner) (problem : Problem) (reading : Option (Activity × Mark)) : Failure :=
  s.cursor.failure problem reading

/-- Adds a token. -/
def push (t : Token) (s : Scanner) : Scanner := { s with made := t :: s.made }

/-- Adds a token without an extent at the current place. -/
def pushHere (kind : TokenKind) (s : Scanner) : Scanner :=
  s.push ⟨kind, s.cursor.mark, s.cursor.mark⟩

/-- Adds a token of some characters. -/
def pushChars (kind : TokenKind) (size : Nat) (s : Scanner) : Scanner :=
  let after := s.cursor.skipMany size
  { s.push ⟨kind, s.cursor.mark, after.mark⟩ with cursor := after }

/-- Inserts a token after the first `position` ones. -/
def insertAt (position : Nat) (t : Token) (s : Scanner) : Scanner :=
  { s with made := s.made.insertIdx (s.made.length - position) t }

/-! ### Possible keys -/

/-- The failure of a node that had to be a key. -/
def missingColon (k : PossibleKey) (s : Scanner) : Failure :=
  s.failure .noColon (some (.simpleKey, k.mark))

/-- Drops the possible keys that can be none any more: a key is on one line and not long. -/
def dropOldKeys (s : Scanner) : Except Failure Scanner := do
  let m := s.cursor.mark
  let keys ← s.keys.reverse.mapM fun
    | some k =>
      if k.mark.line < m.line || k.mark.index + 1024 < m.index then
        if k.isRequired then throw (s.missingColon k) else pure none
      else pure (some k)
    | none => pure none
  return { s with keys := keys.reverse }

/-- Drops the possible key of the innermost structure. -/
def dropKey (s : Scanner) : Except Failure Scanner :=
  match s.keys with
  | some k :: ks =>
    if k.isRequired then .error (s.missingColon k) else .ok { s with keys := none :: ks }
  | _ => .ok s

/-- Notes that the next node may be a key. -/
def saveKey (s : Scanner) : Except Failure Scanner := do
  if !s.allowsKey then
    return s
  let key : PossibleKey :=
    { isRequired := !s.inFlow && s.indents.head? = some s.cursor.mark.column
      position := s.made.length
      mark := s.cursor.mark }
  let s ← s.dropKey
  return { s with keys := some key :: s.keys.tail }

/-! ### Indentation -/

/-- Whether a column lies deeper than the open structures. -/
def isDeeper (column : Nat) (s : Scanner) : Bool := s.indents.head?.all (· < column)

/-- Opens a block structure at a column, whose token stands after the first `position` ones. -/
def openBlock (column position : Nat) (kind : TokenKind) (m : Mark) (s : Scanner) : Scanner :=
  if s.inFlow || !s.isDeeper column then s
  else { s with indents := column :: s.indents }.insertAt position ⟨kind, m, m⟩

/-- Closes block structures as long as their columns have a property. -/
def closeBlocks (isClosed : Nat → Bool) (s : Scanner) : Scanner :=
  if s.inFlow then s
  else
    let closed := s.indents.takeWhile isClosed
    let t : Token := ⟨.blockEnd, s.cursor.mark, s.cursor.mark⟩
    { s with
      made := List.replicate closed.length t ++ s.made
      indents := s.indents.drop closed.length }

/-! ### White space -/

/-- Passes over white space and comments. -/
def skipSpace : Nat → Scanner → Scanner
  | 0, s => s
  | n + 1, s =>
    let allowsTab := s.inFlow || !s.allowsKey
    let c := (s.cursor.skipWhile fun ch => ch = ' ' || (allowsTab && ch = '\t')).skipComment
    if c.isBreakNext then
      skipSpace n { s with cursor := c.skipLine, allowsKey := s.allowsKey || !s.inFlow }
    else { s with cursor := c }

/-! ### Tokens -/

/-- The end of the text. -/
def finish (s : Scanner) : Except Failure Scanner := do
  let m := s.cursor.mark
  let m := if m.column = 0 then m else { m with line := m.line + 1, column := 0 }
  let s := { s with cursor := { s.cursor with mark := m } }.closeBlocks fun _ => true
  let s ← s.dropKey
  return { s with allowsKey := false, isDone := true }.pushHere .streamEnd

/-- A directive. -/
def directive (s : Scanner) : Except Failure Scanner := do
  let s ← (s.closeBlocks fun _ => true).dropKey
  let (t, c) ← scanDirective s.cursor
  return { s with allowsKey := false, cursor := c }.push t

/-- The start or the end of a document. -/
def documentEdge (kind : TokenKind) (s : Scanner) : Except Failure Scanner := do
  let s ← (s.closeBlocks fun _ => true).dropKey
  return { s with allowsKey := false }.pushChars kind 3

/-- The start of a flow structure. -/
def openFlow (kind : TokenKind) (s : Scanner) : Except Failure Scanner := do
  let s ← s.saveKey
  return { s with keys := none :: s.keys, allowsKey := true }.pushChars kind 1

/-- The end of a flow structure. -/
def closeFlow (kind : TokenKind) (s : Scanner) : Except Failure Scanner := do
  let s ← s.dropKey
  let keys := if s.inFlow then s.keys.tail else s.keys
  return { s with keys := keys, allowsKey := false }.pushChars kind 1

/-- A comma between the parts of a flow structure. -/
def flowEntry (s : Scanner) : Except Failure Scanner := do
  let s ← s.dropKey
  return { s with allowsKey := true }.pushChars .flowEntry 1

/-- Opens a block structure at the current place if there is none; a key must be allowed here. -/
def openHere (kind : TokenKind) (problem : Problem) (s : Scanner) : Except Failure Scanner :=
  if s.inFlow then .ok s
  else if s.allowsKey then
    .ok (s.openBlock s.cursor.mark.column s.made.length kind s.cursor.mark)
  else .error (s.failure problem none)

/-- The dash before an entry of a sequence. -/
def blockEntry (s : Scanner) : Except Failure Scanner := do
  let s ← s.openHere .blockSequenceStart .entryNotAllowed
  let s ← s.dropKey
  return { s with allowsKey := true }.pushChars .blockEntry 1

/-- The question mark before a key. -/
def key (s : Scanner) : Except Failure Scanner := do
  let s ← s.openHere .blockMappingStart .keyNotAllowed
  let s ← s.dropKey
  return { s with allowsKey := !s.inFlow }.pushChars .key 1

/-- The colon before a value, which settles that the possible key is one. -/
def value (s : Scanner) : Except Failure Scanner := do
  match s.keys with
  | some k :: ks =>
    let s := s.insertAt k.position ⟨.key, k.mark, k.mark⟩
    let s := s.openBlock k.mark.column k.position .blockMappingStart k.mark
    return { s with keys := none :: ks, allowsKey := false }.pushChars .value 1
  | _ =>
    let s ← s.openHere .blockMappingStart .valueNotAllowed
    return { s with allowsKey := !s.inFlow }.pushChars .value 1

/-- A token that starts a node or is one. -/
def nodeToken (scan : Cursor → Except Failure (Token × Cursor)) (s : Scanner) :
    Except Failure Scanner := do
  let s ← s.saveKey
  let (t, c) ← scan s.cursor
  return { s with allowsKey := false, cursor := c }.push t

/-- A scalar as a block. -/
def blockScalar (isFolded : Bool) (s : Scanner) : Except Failure Scanner := do
  let s ← s.dropKey
  let (t, c) ← scanBlock isFolded s.indents.head? s.cursor
  return { s with allowsKey := true, cursor := c }.push t

/-- A plain scalar. -/
def plainScalar (s : Scanner) : Except Failure Scanner := do
  let s ← s.saveKey
  let indent := match s.indents with
    | [] => 0
    | i :: _ => i + 1
  let ((t, isBroken), c) ← scanPlain s.inFlow indent s.cursor
  return { s with allowsKey := isBroken, cursor := c }.push t

/-- Whether a plain scalar starts at the current place. -/
def startsPlain (s : Scanner) : Bool :=
  let c := s.cursor
  match c.head? with
  | none => false
  | some ch =>
    let isIndicator := ['-', '?', ':', ',', '[', ']', '\x7b', '\x7d', '#', '&', '*', '!', '|', '>',
      '\'', '"', '%', '@', '\x60'].contains ch
    !(isBlankChar ch || isBreak ch || isIndicator) ||
      (ch = '-' && !(c.peek? 1).any isBlankChar) ||
      (!s.inFlow && (ch = '?' || ch = ':') && !c.isSpaceAt 1)

/-- The next token after white space. -/
def next (s : Scanner) : Except Failure Scanner :=
  let c := s.cursor
  match c.head? with
  | none => s.finish
  | some ch =>
    if c.mark.column = 0 && ch = '%' then s.directive
    else if c.isDocumentMark '-' then s.documentEdge .documentStart
    else if c.isDocumentMark '.' then s.documentEdge .documentEnd
    else if ch = '[' then s.openFlow .flowSequenceStart
    else if ch = '\x7b' then s.openFlow .flowMappingStart
    else if ch = ']' then s.closeFlow .flowSequenceEnd
    else if ch = '\x7d' then s.closeFlow .flowMappingEnd
    else if ch = ',' then s.flowEntry
    else if ch = '-' && c.isSpaceAt 1 then s.blockEntry
    else if ch = '?' && (s.inFlow || c.isSpaceAt 1) then s.key
    else if ch = ':' && (s.inFlow || c.isSpaceAt 1) then s.value
    else if ch = '*' then s.nodeToken (scanAnchor true)
    else if ch = '&' then s.nodeToken (scanAnchor false)
    else if ch = '!' then s.nodeToken (scanTag s.inFlow)
    else if ch = '|' && !s.inFlow then s.blockScalar false
    else if ch = '>' && !s.inFlow then s.blockScalar true
    else if ch = '\'' || ch = '"' then s.nodeToken (scanQuoted ch)
    else if s.startsPlain then s.plainScalar
    else .error (s.failure .noToken (some (.nextToken, c.mark)))

/-- The next token. -/
def step (s : Scanner) : Except Failure Scanner := do
  let s := s.skipSpace (s.cursor.rest.length + 1)
  let s ← s.dropOldKeys
  let column := s.cursor.mark.column
  (s.closeBlocks (column < ·)).next

/-- The tokens whose places are settled: those before the first possible key. -/
def settled (s : Scanner) : List Token :=
  let open_ := match s.dropOldKeys with
    | .ok s' => s'.keys
    | .error _ => s.keys
  let limit := open_.foldl (fun n k => (k.map fun k => min n k.position).getD n) s.made.length
  s.made.reverse.take limit

/-- The tokens up to the end of the text or to where it fails. -/
def run : Nat → Scanner → List Token × Option Failure
  | 0, s => (s.settled, none)
  | n + 1, s =>
    if s.isDone then (s.made.reverse, none)
    else
      match s.step with
      | .ok s' => run n s'
      | .error f => (s.settled, some f)

end Scanner

/-- A text without a byte order mark. -/
def dropOrderMark : Text → Text
  | c :: r => if c.toNat = 0xFEFF then r else c :: r
  | [] => []

/-- The tokens of a text up to its end or to where it fails. -/
def tokens (text : Text) : List Token × Option Failure :=
  let s := dropOrderMark text
  match s.dropWhile isAllowed with
  | [] => (Scanner.ofText s).run (2 * s.length + 2)
  | _ =>
    let before := text.take (text.length - s.length) ++ s.takeWhile isAllowed
    ([], some ⟨.controlCharacter, Mark.start, Text.byteSize before, none⟩)

end DocPreview.Yaml
