import DocPreview.Yaml.Token

/-!
# Tags, anchors and directives of YAML

The tokens that name things: anchors and the aliases for them, tags, and the lines that start
with a percent sign.
-/

namespace DocPreview.Yaml

/-- Whether a character can stand in a tag; `isWhole` tells whether the tag is written as a
whole. -/
def isUriChar (isWhole : Bool) (c : Char) : Bool :=
  isWordChar c ||
    [';', '/', '?', ':', '@', '&', '=', '+', '$', '.', '%', '!', '~', '*', '\'', '(',
      ')'].contains c ||
    (isWhole && [',', '[', ']'].contains c)

/-! ### Escaped characters -/

/-- The number of a hexadecimal digit. -/
def octetDigit? (c : Char) : Option Nat :=
  let lower := c.toLower
  if c.isDigit then some (c.toNat - '0'.toNat)
  else if 'a' ≤ lower && lower ≤ 'f' then some (lower.toNat - 'a'.toNat + 10)
  else none

/-- The octet that a percent sign and two digits stand for. -/
def octet? (c : Cursor) : Option Nat :=
  match c.rest with
  | '%' :: a :: b :: _ => do
    let high ← octetDigit? a
    let low ← octetDigit? b
    return high * 16 + low
  | _ => none

/-- The number of octets of a character with a given first octet. -/
def octetCount (n : Nat) : Nat :=
  if n < 0x80 then 1
  else if 0xC0 ≤ n && n < 0xE0 then 2
  else if 0xE0 ≤ n && n < 0xF0 then 3
  else if 0xF0 ≤ n && n < 0xF8 then 4
  else 0

/-- The further octets of a character, with the number that those so far make. -/
def scanOctets (reading : Option (Activity × Mark)) :
    Nat → Nat → Cursor → Except Failure (Nat × Cursor)
  | 0, value, c => .ok (value, c)
  | n + 1, value, c =>
    match octet? c with
    | none => .error (c.failure .noUriOctet reading)
    | some o =>
      if o / 64 = 2 then scanOctets reading n (value * 64 + o % 64) (c.skipMany 3)
      else .error (c.failure .badTrailingOctet reading)

/-- The character that percent signs with digits stand for. -/
def scanOctetChar (reading : Option (Activity × Mark)) (c : Cursor) :
    Except Failure (Char × Cursor) := do
  match octet? c with
  | none => throw (c.failure .noUriOctet reading)
  | some o =>
    match octetCount o with
    | 0 => throw (c.failure .badLeadingOctet reading)
    | 1 => return (Char.ofNat o, c.skipMany 3)
    | n + 2 =>
      let top := o % Nat.pow 2 (5 - n)
      let (value, c) ← scanOctets reading (n + 1) top (c.skipMany 3)
      return (Char.ofNat value, c)

/-- The characters of a tag, with those so far reversed. -/
def scanUriRest (isWhole : Bool) (reading : Option (Activity × Mark)) :
    Nat → Text → Cursor → Except Failure (Text × Cursor)
  | 0, s, c => .ok (s.reverse, c)
  | n + 1, s, c =>
    match c.head? with
    | none => .ok (s.reverse, c)
    | some ch =>
      if !isUriChar isWhole ch then .ok (s.reverse, c)
      else if ch = '%' then do
        let (made, c) ← scanOctetChar reading c
        scanUriRest isWhole reading n (made :: s) c
      else scanUriRest isWhole reading n (ch :: s) c.skip

/-- The characters of a tag after `head`, of which the first character is left out. A tag without
any characters is a failure. -/
def scanUri (isWhole isDirective : Bool) (head : Text) (start : Mark) (c : Cursor) :
    Except Failure (Text × Cursor) := do
  let reading := some (if isDirective then Activity.tagDirectiveUri else .tagUri, start)
  let (s, after) ← scanUriRest isWhole reading (c.rest.length + 1) [] c
  if head.isEmpty && s.isEmpty then
    throw (after.failure .noUri reading)
  return (head.tail ++ s, after)

/-- The handle of a tag. -/
def scanHandle (isDirective : Bool) (start : Mark) (c : Cursor) :
    Except Failure (Text × Cursor) := do
  if !c.is '!' then
    let activity := if isDirective then Activity.tagDirectiveHandle else .tag
    throw (c.failure .noExclamation (some (activity, start)))
  let (word, c) := c.skip.takeWhile isWordChar
  if c.is '!' then
    return ('!' :: word ++ ['!'], c.skip)
  if isDirective && !word.isEmpty then
    throw (c.failure .noExclamation (some (.tagDirectiveUri, start)))
  return ('!' :: word, c)

/-! ### Tokens -/

/-- The handle and the suffix of a tag. -/
def scanTagParts (start : Mark) (c : Cursor) : Except Failure ((Text × Text) × Cursor) := do
  if c.isAt 1 '<' then
    let (uri, c) ← scanUri true false [] start (c.skipMany 2)
    if !c.is '>' then
      throw (c.failure .noTagEnd (some (.tag, start)))
    return (([], uri), c.skip)
  let (handle, c) ← scanHandle false start c
  if 1 < handle.length && handle.getLast? = some '!' then
    let (uri, c) ← scanUri false false [] start c
    return ((handle, uri), c)
  let (uri, c) ← scanUri false false handle start c
  return (if uri.isEmpty then ([], ['!']) else (['!'], uri), c)

/-- A tag. -/
def scanTag (inFlow : Bool) (c : Cursor) : Except Failure (Token × Cursor) := do
  let start := c.mark
  let ((handle, suffix), c) ← scanTagParts start c
  if !c.isSpaceAt 0 && !(inFlow && c.is ',') then
    throw (c.failure .noWhitespaceOrBreak (some (.tag, start)))
  return (⟨.tag handle suffix, start, c.mark⟩, c)

/-- An anchor, or an alias for one. -/
def scanAnchor (isAlias : Bool) (c : Cursor) : Except Failure (Token × Cursor) := do
  let start := c.mark
  let (name, c) := c.skip.takeWhile isWordChar
  if name.isEmpty ||
      !(c.isSpaceAt 0 || c.isOneOf ['?', ':', ',', ']', '\x7d', '%', '@', '\x60']) then
    throw (c.failure .noAnchorName (some (if isAlias then .aliasName else .anchor, start)))
  return (⟨if isAlias then .aliasName name else .anchor name, start, c.mark⟩, c)

/-- A number in a version. -/
def scanVersionNumber (start : Mark) (c : Cursor) : Except Failure (Nat × Cursor) := do
  let digits := c.rest.takeWhile Char.isDigit
  if digits.isEmpty then
    throw (c.failure .noVersionNumber (some (.versionDirective, start)))
  if 9 < digits.length then
    throw ((c.skipMany 9).failure .longVersionNumber (some (.versionDirective, start)))
  return (digits.foldl (fun n d => n * 10 + (d.toNat - '0'.toNat)) 0, c.skipMany digits.length)

/-- The value of a directive for a version. -/
def scanVersion (start : Mark) (c : Cursor) : Except Failure (Token × Cursor) := do
  let (major, c) ← scanVersionNumber start (c.skipWhile isBlankChar)
  if !c.is '.' then
    throw (c.failure .noVersionDot (some (.versionDirective, start)))
  let (minor, c) ← scanVersionNumber start c.skip
  return (⟨.version major minor, start, c.mark⟩, c)

/-- The value of a directive for a handle. -/
def scanHandleDirective (start : Mark) (c : Cursor) : Except Failure (Token × Cursor) := do
  let (handle, c) ← scanHandle true start (c.skipWhile isBlankChar)
  if !c.isBlank then
    throw (c.failure .noWhitespace (some (.tagDirective, start)))
  let (uri, c) ← scanUri true true [] start (c.skipWhile isBlankChar)
  if !c.isSpaceAt 0 then
    throw (c.failure .noWhitespaceOrBreak (some (.tagDirective, start)))
  return (⟨.tagHandle handle uri, start, c.mark⟩, c)

/-- A directive with the end of its line. -/
def scanDirective (c : Cursor) : Except Failure (Token × Cursor) := do
  let start := c.mark
  let reading := some (Activity.directive, start)
  let (name, c) := c.skip.takeWhile isWordChar
  if name.isEmpty then
    throw (c.failure .noDirectiveName reading)
  if !c.isSpaceAt 0 then
    throw (c.failure .badDirectiveName reading)
  let (token, c) ←
    if name = "YAML".toList then scanVersion start c
    else if name = "TAG".toList then scanHandleDirective start c
    else throw (c.failure .unknownDirective reading)
  let c := (c.skipWhile isBlankChar).skipComment
  if !c.isBreakOrEnd then
    throw (c.failure .noLineBreak reading)
  return (token, c.skipLine)

end DocPreview.Yaml
