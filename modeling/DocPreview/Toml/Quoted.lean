import DocPreview.Toml.Reader

/-!
# Blank space and strings of TOML

A string stands between single quotes, where every character is itself, or between double quotes,
where a backslash starts an escape. Three quotes enclose a string of several lines, of which the
first one does not count if it is empty.
-/

namespace DocPreview.Toml

open Reader

/-! ### Blank space -/

/-- Blanks and tabs. -/
def isSpace (c : Char) : Bool := c = ' ' || c = '\t'

/-- The characters beyond ASCII. -/
def isWide (c : Char) : Bool := 0x80 ≤ c.toNat

/-- The characters of a comment. -/
def isCommentChar (c : Char) : Bool := c = '\t' || (' ' ≤ c && c ≤ '~') || isWide c

/-- Blanks and tabs, if there are any. -/
def space : Reader Unit := do
  let _ ← takeWhile isSpace

/-- The end of a line. -/
def newline : Reader Unit := do
  match ← next with
  | '\n' => return ()
  | '\r' => do
    let _ ← char '\n'
  | _ => miss .unknown

/-- A comment up to the end of its line. -/
def comment : Reader Unit := do
  let _ ← char '#'
  let _ ← takeWhile isCommentChar

/-- The end of a line, or of the text. -/
def lineEnd : Reader Unit := orElse newline atEnd

/-- What can stand behind a line: blanks and a comment. -/
def lineRest : Reader Unit := do
  space
  let _ ← optional comment
  lineEnd

/-- Blanks, line ends and comments; `fuel` bounds the number of lines. -/
def gapWithin : Nat → Reader Unit
  | 0 => space
  | fuel + 1 => do
    space
    match ← look with
    | some '#' => do
      comment
      newline
      gapWithin fuel
    | some '\n' | some '\r' => do
      newline
      gapWithin fuel
    | _ => return ()

/-- Blanks, line ends and comments. -/
def gap : Reader Unit := fun rest => gapWithin rest.text.length rest

/-! ### Strings between double quotes -/

/-- The characters that stand for themselves between double quotes. -/
def isBasicChar (c : Char) : Bool :=
  isSpace c || c = '!' || ('#' ≤ c && c ≤ '[') || (']' ≤ c && c ≤ '~') || isWide c

/-- The value of a hexadecimal digit. -/
def hexValue (c : Char) : Nat :=
  if c.isDigit then c.toNat - '0'.toNat
  else if 'a' ≤ c && c ≤ 'f' then c.toNat - 'a'.toNat + 10
  else c.toNat - 'A'.toNat + 10

/-- The digits of hexadecimal numbers. -/
def isHexDigit (c : Char) : Bool :=
  c.isDigit || ('a' ≤ c && c ≤ 'f') || ('A' ≤ c && c ≤ 'F')

/-- The character with a number of `size` hexadecimal digits. -/
def codePoint (size : Nat) : Reader Char := commit <|
  named ("unicode " ++ toString size ++ "-digit hex code") <|
    check (takeUpTo size isHexDigit) fun digits =>
      if digits.length ≠ size then .error .unknown
      else
        let n := digits.foldl (fun n c => 16 * n + hexValue c) 0
        if n < 0xD800 || (0xDFFF < n && n < 0x110000) then .ok (Char.ofNat n)
        else .error (.refused "value is out of range")

/-- The characters that can follow a backslash. -/
def escapeChars : List Char := ['b', 'f', 'n', 'r', 't', 'u', 'U', '\\', '"']

/-- An escape. -/
def escaped : Reader Char := do
  let _ ← char '\\'
  match ← next with
  | 'b' => return Char.ofNat 8
  | 'f' => return Char.ofNat 12
  | 'n' => return '\n'
  | 'r' => return '\r'
  | 't' => return '\t'
  | 'u' => codePoint 4
  | 'U' => codePoint 8
  | '\\' => return '\\'
  | '"' => return '"'
  | _ => named "escape sequence" (expecting (escapeChars.map quotedChar) (fail .unknown))

/-- Part of a string between double quotes. -/
def basicPart : Reader Text :=
  orElse (takeWhile1 isBasicChar) do
    return [← escaped]

/-- A string between double quotes. -/
def basicString : Reader Text := do
  let _ ← char '"'
  let parts ← many basicPart
  let _ ← named "basic string" (commit (char '"'))
  return parts.flatten

/-- A backslash before the end of a line, with the blank space that it removes. -/
def joinedLines : Reader Unit := do
  let _ ← many1 do
    let _ ← char '\\'
    space
    newline
    let _ ← many (orElse (do let _ ← satisfying isSpace) newline)

/-- Part of a string of several lines between double quotes. -/
def basicLinesPart : Reader Text :=
  orElse (takeWhile1 isBasicChar) <|
    orElse (do
      joinedLines
      return []) <|
    orElse (do
      return [← escaped]) (do
      newline
      return ['\n'])

/-- Three quotes. -/
def threeQuotes (quote : Char) : Reader Unit := word [quote, quote, quote]

/-- One or two quotes before something. -/
def quotesBefore (quote : Char) (following : Reader Unit) : Reader Text :=
  orElse (do
    word [quote, quote]
    peek following
    return [quote, quote]) (do
    word [quote]
    peek following
    return [quote])

/-- A character that is no quote. -/
def noQuote (quote : Char) : Reader Unit := do
  let _ ← satisfying (· ≠ quote)

/-- A string of several lines between double quotes. -/
def basicLines : Reader Text := named "multiline basic string" do
  threeQuotes '"'
  let _ ← optional newline
  let first ← many basicLinesPart
  let later ← many do
    let quotes ← quotesBefore '"' (noQuote '"')
    let parts ← many1 basicLinesPart
    return quotes ++ parts.flatten
  let last ← optional (quotesBefore '"' (threeQuotes '"'))
  commit (threeQuotes '"')
  return first.flatten ++ later.flatten ++ last.getD []

/-! ### Strings between single quotes -/

/-- The characters that can stand between single quotes. -/
def isLiteralChar (c : Char) : Bool :=
  c = '\t' || (' ' ≤ c && c ≤ '&') || ('(' ≤ c && c ≤ '~') || isWide c

/-- A string between single quotes. -/
def literalString : Reader Text := named "literal string" do
  let _ ← char '\''
  let s ← takeWhile isLiteralChar
  let _ ← commit (char '\'')
  return s

/-- Part of a string of several lines between single quotes. -/
def literalLinesPart : Reader Text :=
  orElse (takeWhile1 isLiteralChar) do
    newline
    return ['\n']

/-- A string of several lines between single quotes. -/
def literalLines : Reader Text := named "multiline literal string" do
  threeQuotes '\''
  let _ ← optional newline
  let first ← many literalLinesPart
  let later ← many do
    let quotes ← quotesBefore '\'' (noQuote '\'')
    let parts ← many1 literalLinesPart
    return quotes ++ parts.flatten
  let last ← optional (quotesBefore '\'' (threeQuotes '\''))
  commit (threeQuotes '\'')
  return first.flatten ++ later.flatten ++ last.getD []

/-- A string. -/
def string : Reader Text :=
  orElse basicLines (orElse basicString (orElse literalLines literalString))

end DocPreview.Toml
