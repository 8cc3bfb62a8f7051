import DocPreview.Yaml.Token

/-!
# Scalars of YAML

The three forms of a scalar: plain, between quotes, and as a block. White space between the words
of the first two is folded: a single line end becomes a blank, and of more line ends all but the
first remain.

## Main definitions

* `Gap`: white space between the words of a scalar.
* `scanPlain`, `scanQuoted`, `scanBlock`: the scalars that start at a place.
-/

namespace DocPreview.Yaml

/-! ### White space between words -/

/-- White space between the words of a scalar. -/
structure Gap where
  blanks : Text
  firstBreak : Text
  moreBreaks : Text
  /-- Whether a line has ended. -/
  isBroken : Bool
  deriving Repr, DecidableEq

namespace Gap

/-- No white space. -/
def none : Gap := ⟨[], [], [], false⟩

/-- What white space stands for. -/
def text (g : Gap) : Text :=
  if !g.isBroken then g.blanks
  else if g.firstBreak.head? = some '\n' then
    if g.moreBreaks.isEmpty then [' '] else g.moreBreaks
  else g.firstBreak ++ g.moreBreaks

/-- The white space up to the next word; a tab before column `indent` on a further line is a
failure. -/
def scan (indent : Nat) (start : Mark) : Nat → Gap → Cursor → Except Failure (Gap × Cursor)
  | 0, g, c => .ok (g, c)
  | n + 1, g, c =>
    match c.head? with
    | Option.none => .ok (g, c)
    | some ch =>
      if isBlankChar ch then
        if g.isBroken && c.mark.column < indent && ch = '\t' then
          .error (c.failure .tabBeforeScalar (some (.plainScalar, start)))
        else if g.isBroken then scan indent start n g c.skip
        else scan indent start n { g with blanks := g.blanks ++ [ch] } c.skip
      else if isBreak ch then
        let g' : Gap :=
          if g.isBroken then { g with moreBreaks := g.moreBreaks ++ c.lineText }
          else { g with blanks := [], firstBreak := c.lineText, isBroken := true }
        scan indent start n g' c.skipLine
      else .ok (g, c)

end Gap

/-! ### Plain scalars -/

/-- What has been read of a plain scalar: its text reversed, the white space after it, and its
end. -/
structure PlainState where
  text : Text
  gap : Gap
  stop : Mark
  deriving Repr, DecidableEq

/-- A plain scalar up to the next white space or to where it has to end. -/
def scanPlainWord (inFlow : Bool) (start : Mark) :
    Nat → PlainState → Cursor → Except Failure (PlainState × Cursor)
  | 0, s, c => .ok (s, c)
  | n + 1, s, c =>
    match c.head? with
    | none => .ok (s, c)
    | some ch =>
      if isBlankChar ch || isBreak ch then .ok (s, c)
      else if inFlow && ch = ':' &&
          (c.peek? 1).any [',', '?', '[', ']', '\x7b', '\x7d'].contains then
        .error (c.failure .unexpectedColon (some (.plainScalar, start)))
      else if ch = ':' && c.isSpaceAt 1 then .ok (s, c)
      else if inFlow && [',', '[', ']', '\x7b', '\x7d'].contains ch then .ok (s, c)
      else
        scanPlainWord inFlow start n
          ⟨ch :: s.gap.text.reverse ++ s.text, Gap.none, c.skip.mark⟩ c.skip

/-- The words of a plain scalar; words on further lines start at column `indent` or later. -/
def scanPlainWords (inFlow : Bool) (indent : Nat) (start : Mark) :
    Nat → PlainState → Cursor → Except Failure (PlainState × Cursor)
  | 0, s, c => .ok (s, c)
  | n + 1, s, c =>
    if c.isDocumentEdge || c.is '#' then .ok (s, c)
    else do
      let (s, c) ← scanPlainWord inFlow start (c.rest.length + 1) s c
      if c.isBlank || c.isBreakNext then
        let (gap, c) ← Gap.scan indent start (c.rest.length + 1) s.gap c
        let s := { s with gap := gap }
        if !inFlow && c.mark.column < indent then return (s, c)
        else scanPlainWords inFlow indent start n s c
      else return (s, c)

/-- A plain scalar, and whether it is followed by a line end. -/
def scanPlain (inFlow : Bool) (indent : Nat) (c : Cursor) :
    Except Failure ((Token × Bool) × Cursor) := do
  let (s, after) ← scanPlainWords inFlow indent c.mark (c.rest.length + 1)
    ⟨[], Gap.none, c.mark⟩ c
  return ((⟨.scalar s.text.reverse .plain, c.mark, s.stop⟩, s.gap.isBroken), after)

/-! ### Scalars between quotes -/

/-- The number that hexadecimal digits stand for. -/
def hexNumber? (s : Text) : Option Nat :=
  s.foldl (fun acc c => do
    let n ← acc
    let lower := c.toLower
    if c.isDigit then some (n * 16 + (c.toNat - '0'.toNat))
    else if 'a' ≤ lower && lower ≤ 'f' then some (n * 16 + (lower.toNat - 'a'.toNat + 10))
    else none) (some 0)

/-- What a character after a backslash stands for. -/
inductive Escape where
  | char (c : Char)
  /-- The code of a character in a number of hexadecimal digits. -/
  | code (size : Nat)
  deriving Repr, DecidableEq

/-- What a character after a backslash stands for, if it can stand there. -/
def escape? (c : Char) : Option Escape :=
  match c with
  | '0' => some (.char '\x00')
  | 'a' => some (.char '\x07')
  | 'b' => some (.char '\x08')
  | 't' | '\t' => some (.char '\t')
  | 'n' => some (.char '\n')
  | 'v' => some (.char '\x0b')
  | 'f' => some (.char '\x0c')
  | 'r' => some (.char '\r')
  | 'e' => some (.char '\x1b')
  | ' ' => some (.char ' ')
  | '"' => some (.char '"')
  | '/' => some (.char '/')
  | '\\' => some (.char '\\')
  | 'N' => some (.char '\u0085')
  | '_' => some (.char '\u00a0')
  | 'L' => some (.char '\u2028')
  | 'P' => some (.char '\u2029')
  | 'x' => some (.code 2)
  | 'u' => some (.code 4)
  | 'U' => some (.code 8)
  | _ => none

/-- The character that stands after a backslash at the cursor. -/
def scanEscape (start : Mark) (c : Cursor) : Except Failure (Char × Cursor) := do
  let reading := some (Activity.escapedCharacter, start)
  match (c.peek? 1).bind escape? with
  | none => throw (c.failure .unknownEscape reading)
  | some (.char ch) => return (ch, c.skipMany 2)
  | some (.code size) =>
    let c := c.skipMany 2
    let digits := c.rest.take size
    match hexNumber? digits with
    | none => throw (c.failure .noHexNumber reading)
    | some n =>
      if digits.length < size then
        throw (c.failure .noHexNumber reading)
      if (0xD800 ≤ n && n ≤ 0xDFFF) || 0x10FFFF < n then
        throw (c.failure .badCodePoint reading)
      return (Char.ofNat n, c.skipMany size)

/-- The characters of a scalar between quotes up to white space or the closing quote, put before
those read so far in reverse. The flag tells whether the end of a line is left out. -/
def scanQuotedWord (quote : Char) (start : Mark) :
    Nat → Text → Cursor → Except Failure (Text × Bool × Cursor)
  | 0, s, c => .ok (s, false, c)
  | n + 1, s, c =>
    match c.head? with
    | none => .ok (s, false, c)
    | some ch =>
      if isBlankChar ch || isBreak ch then .ok (s, false, c)
      else if quote = '\'' && ch = quote && c.isAt 1 quote then
        scanQuotedWord quote start n (quote :: s) (c.skipMany 2)
      else if ch = quote then .ok (s, false, c)
      else if quote = '"' && ch = '\\' then
        if (c.peek? 1).any isBreak then .ok (s, true, c.skip.skipLine)
        else do
          let (made, c) ← scanEscape start c
          scanQuotedWord quote start n (made :: s) c
      else scanQuotedWord quote start n (ch :: s) c.skip

/-- The rest of a scalar between quotes up to the closing one, with the text so far reversed. -/
def scanQuotedRest (quote : Char) (start : Mark) :
    Nat → Text → Cursor → Except Failure (Text × Cursor)
  | 0, s, c => .ok (s, c)
  | n + 1, s, c => do
    if c.isDocumentEdge then
      throw (c.failure .documentInScalar (some (.quotedScalar, start)))
    if c.rest.isEmpty then
      throw (c.failure .unclosedScalar (some (.quotedScalar, start)))
    let (s, isJoined, c) ← scanQuotedWord quote start (c.rest.length + 1) s c
    if c.is quote then
      return (s, c)
    let (gap, c) ← Gap.scan 0 start (c.rest.length + 1) { Gap.none with isBroken := isJoined } c
    scanQuotedRest quote start n (gap.text.reverse ++ s) c

/-- A scalar between quotes. -/
def scanQuoted (quote : Char) (c : Cursor) : Except Failure (Token × Cursor) := do
  let (s, after) ← scanQuotedRest quote c.mark (c.rest.length + 1) [] c.skip
  return (⟨.scalar s.reverse .quoted, c.mark, after.skip.mark⟩, after.skip)

/-! ### Scalars as blocks -/

/-- Which line ends at the end of a block are kept. -/
inductive Chomping where
  | clip
  | strip
  | keep
  deriving Repr, DecidableEq

/-- What the first line of a block says: which line ends are kept, and how far its lines are
indented. -/
structure BlockHeader where
  chomping : Chomping
  increment : Option Nat
  deriving Repr, DecidableEq

/-- The digit for the indentation of a block, if it comes next. -/
def scanIncrement (start : Mark) (c : Cursor) : Except Failure (Option Nat × Cursor) :=
  match c.head? with
  | some ch =>
    if ch = '0' then .error (c.failure .zeroIndentation (some (.blockScalar, start)))
    else if ch.isDigit then .ok (some (ch.toNat - '0'.toNat), c.skip)
    else .ok (none, c)
  | none => .ok (none, c)

/-- The sign for the line ends of a block, if it comes next. -/
def scanChomping (c : Cursor) : Option Chomping × Cursor :=
  if c.is '+' then (some .keep, c.skip) else if c.is '-' then (some .strip, c.skip) else (none, c)

/-- The first line of a block after its indicator. -/
def scanBlockHeader (start : Mark) (c : Cursor) : Except Failure (BlockHeader × Cursor) := do
  let (chomping, c) := scanChomping c
  let (increment, c) ← scanIncrement start c
  let (later, c) := if chomping.isNone && increment.isSome then scanChomping c else (none, c)
  let c := (c.skipWhile isBlankChar).skipComment
  if !c.isBreakOrEnd then
    throw (c.failure .noLineBreak (some (.blockScalar, start)))
  return (⟨(chomping.orElse fun _ => later).getD .clip, increment⟩, c.skipLine)

/-- The empty lines of a block, with the greatest column to which one of them is indented. -/
def scanEmptyLines (start : Mark) (indent : Option Nat) :
    Nat → Text → Nat → Cursor → Except Failure (Text × Nat × Cursor)
  | 0, breaks, deepest, c => .ok (breaks, deepest, c)
  | n + 1, breaks, deepest, c =>
    let blanks := (c.rest.takeWhile (· = ' ')).length
    let size := match indent with
      | none => blanks
      | some i => min blanks (i - c.mark.column)
    let c := c.skipMany size
    let deepest := max deepest c.mark.column
    if indent.all (c.mark.column < ·) && c.is '\t' then
      .error (c.failure .tabInIndentation (some (.blockScalar, start)))
    else if c.isBreakNext then
      scanEmptyLines start indent n (breaks ++ c.lineText) deepest c.skipLine
    else .ok (breaks, deepest, c)

/-- What has been read of a block: its text reversed, the end of its last line and the ends of the
empty lines after it. -/
structure BlockState where
  text : Text
  lineEnd : Text
  emptyLines : Text
  /-- Whether the last line starts with white space. -/
  isIndented : Bool
  deriving Repr, DecidableEq

/-- The end of the last line and the empty lines after it, before a line that starts with white
space or not. -/
def BlockState.join (isFolded : Bool) (s : BlockState) (isIndented : Bool) : Text :=
  let first :=
    if isFolded && s.lineEnd.head? = some '\n' && !s.isIndented && !isIndented then
      if s.emptyLines.isEmpty then [' '] else []
    else s.lineEnd
  first ++ s.emptyLines

/-- The lines of a block that are indented to column `indent`. -/
def scanBlockLines (isFolded : Bool) (start : Mark) (indent : Nat) :
    Nat → BlockState → Cursor → Except Failure (BlockState × Cursor)
  | 0, s, c => .ok (s, c)
  | n + 1, s, c =>
    if c.mark.column = indent && !c.rest.isEmpty then do
      let isIndented := c.isBlank
      let (line, c) := c.takeWhile (!isBreak ·)
      let text := line.reverse ++ (s.join isFolded isIndented).reverse ++ s.text
      let lineEnd := c.lineText
      let c := c.skipLine
      let (breaks, _, c) ← scanEmptyLines start (some indent) (c.rest.length + 1) [] 0 c
      scanBlockLines isFolded start indent n ⟨text, lineEnd, breaks, isIndented⟩ c
    else .ok (s, c)

/-- A scalar as a block inside a structure indented to `parent`, which is none at the top. -/
def scanBlock (isFolded : Bool) (parent : Option Nat) (c : Cursor) :
    Except Failure (Token × Cursor) := do
  let start := c.mark
  let (header, c) ← scanBlockHeader start c.skip
  let given := header.increment.map fun n => n + parent.getD 0
  let (breaks, deepest, c) ← scanEmptyLines start given (c.rest.length + 1) [] 0 c
  let least := match parent with
    | none => 1
    | some i => i + 1
  let indent := given.getD (max deepest least)
  let (s, c) ←
    scanBlockLines isFolded start indent (c.rest.length + 1) ⟨[], [], breaks, false⟩ c
  let ending := match header.chomping with
    | .strip => []
    | .clip => s.lineEnd
    | .keep => s.lineEnd ++ s.emptyLines
  return (⟨.scalar (s.text.reverse ++ ending) .block, start, c.mark⟩, c)

end DocPreview.Yaml
