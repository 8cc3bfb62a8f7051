import DocPreview.Script.Problem
import DocPreview.Text.Unicode

/-!
# Tokens of scripts

A text is read token by token from a `Cursor`. What a token is depends on where it stands only
for regular expressions, for the texts of templates and for the contents of JSX elements: these
are read by functions of their own from the place where they start.

## Main definitions

* `Token`, `Lexeme`: a token, and a token with its place and the comments before it.
* `Lexeme.read`: the next token after a place.
* `scanRegex`, `scanTemplate`, `scanJsxText`, `scanJsxString`, `scanJsxName`: the parts that
  depend on their place.
-/

namespace DocPreview.Script

/-- A place in a text: the rest of the text, and the number of characters before it. -/
structure Cursor where
  rest : List Char
  pos : Nat
  deriving Inhabited

/-- A token. -/
inductive Token where
  | eof
  /-- A name or a keyword; `escaped` tells whether it was written with escapes. -/
  | word (name : String) (escaped : Bool)
  | privateName (name : String)
  | punct (text : String)
  | string (value raw : String)
  | number (raw : String)
  | bigInt (raw : String)
  /-- A text that is no token. -/
  | bad (failure : Failure)
  deriving Repr, DecidableEq

/-- A comment with its place in the text. -/
structure FoundComment where
  comment : Comment
  /-- Whether a line break stands between the token before the comment and the comment. -/
  afterBreak : Bool
  /-- Whether a line break stands between the comment and what follows it. -/
  beforeBreak : Bool
  deriving Repr, DecidableEq

/-- A token with its surroundings. -/
structure Lexeme where
  token : Token
  span : Span
  /-- Whether a line break stands between the token before and this one. -/
  afterBreak : Bool
  /-- The comments between the token before and this one. -/
  comments : List FoundComment
  /-- Where the text goes on. -/
  next : Cursor
  /-- Problems that do not keep the token from being read. -/
  problems : List Failure

namespace Cursor

/-- The place after one more character. -/
def advance (c : Cursor) : Cursor := ⟨c.rest.drop 1, c.pos + 1⟩

/-- The place after `n` more characters. -/
def skip (c : Cursor) (n : Nat) : Cursor := ⟨c.rest.drop n, c.pos + n⟩

/-- The characters from `c` to a later place `d`. -/
def upTo (c d : Cursor) : String := String.ofList (c.rest.take (d.pos - c.pos))

/-- The place after the longest run of characters satisfying `p`. -/
def skipWhile (p : Char → Bool) (c : Cursor) : Cursor := c.skip (c.rest.takeWhile p).length

end Cursor

/-- The characters that end a line. -/
def isLineTerminator (c : Char) : Bool := c = '\n' || c = '\r' || c = '\u2028' || c = '\u2029'

/-- The blank characters between tokens, line ends apart. -/
def isSpace (c : Char) : Bool :=
  let n := c.toNat
  n = 9 || n = 11 || n = 12 || n = 0x20 || n = 0xA0 || n = 0xFEFF || n = 0x1680 ||
    (0x2000 ≤ n && n ≤ 0x200A) || n = 0x202F || n = 0x205F || n = 0x3000

/-- The characters that can start a name. -/
def isNameStart (c : Char) : Bool := c = '$' || c = '_' || Unicode.isIdStart c

/-- The characters that can stand in a name. -/
def isNamePart (c : Char) : Bool :=
  c = '$' || c = '\u200C' || c = '\u200D' || Unicode.isIdContinue c

/-- The value of a hexadecimal digit. -/
def hexValue? (c : Char) : Option Nat :=
  if c.isDigit then some (c.toNat - '0'.toNat)
  else if 'a' ≤ c && c ≤ 'f' then some (c.toNat - 'a'.toNat + 10)
  else if 'A' ≤ c && c ≤ 'F' then some (c.toNat - 'A'.toNat + 10)
  else none

/-- The number that hexadecimal digits stand for. -/
def hexNumber? (ds : List Char) : Option Nat :=
  if ds.isEmpty then none
  else ds.foldl (fun acc d => do return 16 * (← acc) + (← hexValue? d)) (some 0)

/-- The blanks and comments before a token. -/
structure Trivia where
  comments : List FoundComment
  sawBreak : Bool
  next : Cursor
  problem : Option Failure

/-- The characters of a block comment before its closer, and what follows the closer. -/
def blockComment? : List Char → Option (List Char × List Char)
  | [] => none
  | '*' :: '/' :: r => some ([], r)
  | c :: r => (blockComment? r).map fun (text, rest) => (c :: text, rest)

/-- Whether the first token of a text comes after a line break, comments not counted. -/
def startsWithBreak (s : List Char) : Bool :=
  match s.dropWhile isSpace with
  | c :: _ => isLineTerminator c
  | [] => false

/-- Reads blanks and comments; `fuel` bounds their number. -/
def skipTrivia : Nat → Bool → Cursor → Trivia
  | 0, sawBreak, c => ⟨[], sawBreak, c, none⟩
  | fuel + 1, sawBreak, c =>
    match c.rest with
    | '/' :: '/' :: r =>
      let text := r.takeWhile fun d => !isLineTerminator d
      let t := skipTrivia fuel sawBreak (c.skip (2 + text.length))
      { t with comments := ⟨⟨true, String.ofList text⟩, sawBreak, true⟩ :: t.comments }
    | '/' :: '*' :: r =>
      match blockComment? r with
      | none =>
        let stop := c.pos + c.rest.length
        ⟨[], sawBreak, c, some ⟨⟨stop, stop⟩, .unterminatedComment⟩⟩
      | some (text, rest) =>
        let sawBreak' := sawBreak || text.any isLineTerminator
        let t := skipTrivia fuel sawBreak' (c.skip (4 + text.length))
        { t with comments :=
            ⟨⟨false, String.ofList text⟩, sawBreak, startsWithBreak rest⟩ :: t.comments }
    | d :: _ =>
      if isLineTerminator d then skipTrivia fuel true c.advance
      else if isSpace d then skipTrivia fuel sawBreak c.advance
      else ⟨[], sawBreak, c, none⟩
    | [] => ⟨[], sawBreak, c, none⟩

/-- The punctuators, longer ones before their beginnings. -/
def punctuators : List String :=
  [">>>=", "...", "===", "!==", "**=", "<<=", ">>=", ">>>", "&&=", "||=", "??=",
    "=>", "==", "!=", "<=", ">=", "&&", "||", "??", "?.", "++", "--", "+=", "-=", "*=", "/=",
    "%=", "&=", "|=", "^=", "<<", ">>", "**",
    "\x7b", "\x7d", "(", ")", "[", "]", ";", ",", "<", ">", "+", "-", "*", "/", "%", "&", "|",
    "^", "!", "~", "?", ":", "=", ".", "\x60", "@", "#"]

/-- Whether a text starts with the characters `p`. -/
def startsWith : List Char → List Char → Bool
  | _, [] => true
  | [], _ :: _ => false
  | c :: s, p :: ps => c = p && startsWith s ps

/-- The punctuator that a text starts with. A question mark and a point before a digit are two
tokens. -/
def punctuator? (s : List Char) : Option String :=
  punctuators.find? fun p =>
    startsWith s p.toList &&
      !(p = "?." && (s.drop 2).head?.any Char.isDigit)

/-- One character of a name, which may be written as an escape. -/
def nameChar? (c : Cursor) : Option (Char × Cursor × Bool) :=
  match c.rest with
  | '\\' :: 'u' :: '\x7b' :: r =>
    let digits := r.takeWhile (· ≠ '\x7d')
    (hexNumber? digits).map fun n => (Char.ofNat n, c.skip (digits.length + 4), true)
  | '\\' :: 'u' :: r =>
    let digits := r.take 4
    (hexNumber? digits).map fun n => (Char.ofNat n, c.skip 6, true)
  | d :: _ => some (d, c.advance, false)
  | [] => none

/-- The characters of a name from a place on, and whether one of them is written as an escape;
`fuel` bounds their number. -/
def nameFrom : Nat → Cursor → List Char × Cursor × Bool
  | 0, c => ([], c, false)
  | fuel + 1, c =>
    match nameChar? c with
    | some (d, next, escaped) =>
      if isNamePart d then
        let (rest, stop, escapedLater) := nameFrom fuel next
        (d :: rest, stop, escaped || escapedLater)
      else ([], c, false)
    | none => ([], c, false)

/-- The character that a one-character escape stands for. -/
def simpleEscape? : Char → Option Char
  | 'n' => some '\n'
  | 't' => some '\t'
  | 'r' => some '\r'
  | 'b' => some (Char.ofNat 8)
  | 'v' => some (Char.ofNat 11)
  | 'f' => some (Char.ofNat 12)
  | _ => none

/-- The escape after a backslash: the characters that it stands for, what follows it, and a
problem with it. -/
def escape (c : Cursor) : List Char × Cursor × Option Problem :=
  match c.rest with
  | [] => ([], c, some .unterminatedString)
  | 'x' :: r =>
    match hexNumber? (r.take 2) with
    | some n =>
      if r.length < 2 then ([], c, some .hexExpected) else ([Char.ofNat n], c.skip 3, none)
    | none => ([], c, some .hexExpected)
  | 'u' :: '\x7b' :: r =>
    let digits := r.takeWhile (· ≠ '\x7d')
    match hexNumber? digits with
    | some n => ([Char.ofNat n], c.skip (digits.length + 3), none)
    | none => ([], c, some .badEscape)
  | 'u' :: r =>
    match hexNumber? (r.take 4), r.drop 4 with
    | some high, '\\' :: 'u' :: low =>
      match hexNumber? (low.take 4) with
      | some l =>
        if 0xD800 ≤ high && high < 0xDC00 && 0xDC00 ≤ l && l < 0xE000 then
          ([Char.ofNat (0x10000 + (high - 0xD800) * 0x400 + (l - 0xDC00))], c.skip 11, none)
        else ([Char.ofNat high], c.skip 5, none)
      | none => ([Char.ofNat high], c.skip 5, none)
    | some n, _ =>
      if r.length < 4 then ([], c, some .badEscape) else ([Char.ofNat n], c.skip 5, none)
    | none, _ => ([], c, some .badEscape)
  | '\r' :: '\n' :: _ => ([], c.skip 2, none)
  | '0' :: d :: _ =>
    if d.isDigit then ([Char.ofNat 0], c.advance, some .legacyOctal)
    else ([Char.ofNat 0], c.advance, none)
  | '0' :: _ => ([Char.ofNat 0], c.advance, none)
  | d :: _ =>
    match simpleEscape? d with
    | some e => ([e], c.advance, none)
    | none =>
      if isLineTerminator d then ([], c.advance, none)
      else if '1' ≤ d && d ≤ '7' then ([d], c.advance, some .legacyOctal)
      else if d = '8' || d = '9' then ([d], c.advance, some .legacyDecimal)
      else ([d], c.advance, none)

/-- The characters of a string up to its closing quote, the place after it, and the problems of
its escapes; `none` if there is no closing quote. -/
def stringFrom (quote : Char) : Nat → Cursor →
    Except Failure (List Char × Cursor × List Failure)
  | 0, c => .error ⟨⟨c.pos, c.pos⟩, .tooDeep⟩
  | fuel + 1, c =>
    match c.rest with
    | [] => .error ⟨⟨c.pos, c.pos⟩, .unterminatedString⟩
    | '\\' :: _ =>
      match escape c.advance with
      | (_, _, some .unterminatedString) => .error ⟨⟨c.pos, c.pos⟩, .unterminatedString⟩
      | (_, _, some .hexExpected) => .error ⟨⟨c.pos, c.pos⟩, .hexExpected⟩
      | (_, _, some .badEscape) => .error ⟨⟨c.pos, c.pos⟩, .badEscape⟩
      | (cs, next, problem) => do
        let (rest, stop, problems) ← stringFrom quote fuel next
        let here := problem.toList.map fun p => ⟨⟨c.pos, next.pos⟩, p⟩
        return (cs ++ rest, stop, here ++ problems)
    | d :: _ =>
      if d = quote then .ok ([], c.advance, [])
      else if d = '\n' || d = '\r' then .error ⟨⟨c.pos, c.pos⟩, .unterminatedString⟩
      else do
        let (rest, stop, problems) ← stringFrom quote fuel c.advance
        return (d :: rest, stop, problems)

/-- A string literal. -/
def scanString (quote : Char) (c : Cursor) : Token × Cursor × List Failure :=
  match stringFrom quote (c.rest.length + 1) c.advance with
  | .ok (value, stop, problems) => (.string (String.ofList value) (c.upTo stop), stop, problems)
  | .error f =>
    match f.problem with
    | .unterminatedString =>
      (.bad ⟨⟨c.pos, f.span.hi⟩, .unterminatedString⟩, ⟨[], c.pos + c.rest.length⟩, [])
    | _ => (.bad f, ⟨[], c.pos + c.rest.length⟩, [])

/-- The place after digits of a radix with separators between them. -/
def skipDigits (radix : Nat) (c : Cursor) : Cursor :=
  c.skipWhile fun d => d = '_' || (hexValue? d).any (· < radix)

/-- A number: the token without what it must not be followed by. -/
def scanNumber (c : Cursor) : Token × Cursor × List Failure :=
  let radixNumber (radix : Nat) : Token × Cursor × List Failure :=
    let stop := skipDigits radix (c.skip 2)
    if stop.pos = c.pos + 2 then
      (.bad ⟨⟨stop.pos, stop.pos⟩, .digitExpected radix⟩, stop, [])
    else if stop.rest.head? = some 'n' then (.bigInt (c.upTo stop.advance), stop.advance, [])
    else (.number (c.upTo stop), stop, [])
  let decimal : Token × Cursor × List Failure :=
    let whole := skipDigits 10 c
    if whole.rest.head? = some 'n' && whole.pos > c.pos then
      (.bigInt (c.upTo whole.advance), whole.advance, [])
    else
      let fraction :=
        if whole.rest.head? = some '.' then skipDigits 10 whole.advance else whole
      let stop :=
        match fraction.rest with
        | e :: r =>
          if e = 'e' || e = 'E' then
            let signed := if r.head?.any fun d => d = '+' || d = '-' then 2 else 1
            skipDigits 10 (fraction.skip signed)
          else fraction
        | [] => fraction
      (.number (c.upTo stop), stop, [])
  let (token, stop, problems) :=
    match c.rest with
    | '0' :: d :: _ =>
      if d = 'x' || d = 'X' then radixNumber 16
      else if d = 'o' || d = 'O' then radixNumber 8
      else if d = 'b' || d = 'B' then radixNumber 2
      else if d.isDigit then
        let digits := c.rest.takeWhile Char.isDigit
        let stop := c.skip digits.length
        let problem :=
          if digits.any fun e => e = '8' || e = '9' then Problem.legacyDecimal
          else Problem.legacyOctal
        (.number (c.upTo stop), stop, [⟨⟨c.pos, stop.pos⟩, problem⟩])
      else decimal
    | _ => decimal
  match stop.rest with
  | d :: _ =>
    if isNameStart d then (.bad ⟨⟨stop.pos, stop.pos⟩, .identifierAfterNumber⟩, stop, [])
    else (token, stop, problems)
  | [] => (token, stop, problems)

/-- A character in a message. -/
def showChar (c : Char) : String :=
  match c with
  | '\'' => "'\\''"
  | '\\' => "'\\\\'"
  | '\n' => "'\\n'"
  | '\r' => "'\\r'"
  | '\t' => "'\\t'"
  | c =>
    if c.toNat < 0x20 || c.toNat = 0x7F then
      "'\\u\x7b" ++ String.ofList (Nat.toDigits 16 c.toNat) ++ "\x7d'"
    else "'" ++ toString c ++ "'"

/-- The token at a place that is neither blank nor a comment. -/
def scanToken (c : Cursor) : Token × Cursor × List Failure :=
  match c.rest with
  | [] => (.eof, c, [])
  | '"' :: _ => scanString '"' c
  | '\'' :: _ => scanString '\'' c
  | '#' :: d :: _ =>
    if isNameStart d || d = '\\' then
      let (name, stop, _) := nameFrom c.rest.length c.advance
      (.privateName (String.ofList name), stop, [])
    else (.punct "#", c.advance, [])
  | '.' :: d :: _ =>
    if d.isDigit then scanNumber c
    else if startsWith c.rest ['.', '.', '.'] then (.punct "...", c.skip 3, [])
    else (.punct ".", c.advance, [])
  | d :: _ =>
    if d.isDigit then scanNumber c
    else if isNameStart d || d = '\\' then
      let (name, stop, escaped) := nameFrom c.rest.length c
      if name.isEmpty then
        (.bad ⟨⟨c.pos, c.pos⟩, .unicodeEscapeExpected⟩, ⟨[], c.pos + c.rest.length⟩, [])
      else (.word (String.ofList name) escaped, stop, [])
    else
      match punctuator? c.rest with
      | some p => (.punct p, c.skip p.length, [])
      | none =>
        (.bad ⟨⟨c.pos, c.pos + 1⟩, .unexpectedCharacter (showChar d)⟩,
          ⟨[], c.pos + c.rest.length⟩, [])

/-- Whether the comment of HTML stands at a place, where `sawBreak` tells whether the place is
the first one of its line. -/
def isHtmlComment (sawBreak : Bool) (s : List Char) : Bool :=
  startsWith s "<!--".toList || (sawBreak && startsWith s "-->".toList)

/-- Reads the next token; `fuel` bounds the number of HTML comments before it. -/
def readWithin : Nat → Bool → Cursor → Lexeme
  | 0, _, c => ⟨.eof, ⟨c.pos, c.pos⟩, false, [], c, []⟩
  | fuel + 1, sawBreak, c =>
    let t := skipTrivia (c.rest.length + 1) sawBreak c
    match t.problem with
    | some f => ⟨.bad f, ⟨t.next.pos, f.span.hi⟩, t.sawBreak, t.comments, ⟨[], f.span.hi⟩, []⟩
    | none =>
      if isHtmlComment t.sawBreak t.next.rest then
        let stop := t.next.skipWhile fun d => !isLineTerminator d
        let found : Failure := ⟨⟨t.next.pos, stop.pos⟩, .htmlComment⟩
        let l := readWithin fuel t.sawBreak stop
        { l with comments := t.comments ++ l.comments, problems := found :: l.problems }
      else
        let (token, stop, problems) := scanToken t.next
        ⟨token, ⟨t.next.pos, stop.pos⟩, t.sawBreak, t.comments, stop, problems⟩

/-- Reads the next token. -/
def Lexeme.read (c : Cursor) : Lexeme := readWithin (c.rest.length + 1) false c

/-- The length of the body of a regular expression after its first slash; `inClass` tells whether
the place is inside brackets, and `fuel` bounds the length. -/
def regexLength (inClass : Bool) : Nat → List Char → Option Nat
  | 0, _ => none
  | _ + 1, [] => none
  | fuel + 1, c :: r =>
    if isLineTerminator c then none
    else if c = '\\' then
      match r with
      | d :: r' => if isLineTerminator d then none else (regexLength inClass fuel r').map (· + 2)
      | [] => none
    else if c = '/' && !inClass then some 0
    else
      (regexLength (if c = '[' then true else if c = ']' then false else inClass) fuel r).map
        (· + 1)

/-- The regular expression that starts at a place. -/
def scanRegex (c : Cursor) : Except Failure (String × Cursor) :=
  match regexLength false c.rest.length (c.rest.drop 1) with
  | none => .error ⟨⟨c.pos, c.pos⟩, .unterminatedRegex⟩
  | some n =>
    let stop := (c.skip (n + 2)).skipWhile isNamePart
    .ok (c.upTo stop, stop)

/-- How the text of a template ends. -/
inductive TemplateEnd where
  | close
  | hole
  deriving Repr, DecidableEq

/-- The text of a template up to its end or to the next expression, and the place after that. -/
def scanTemplate : Nat → Cursor → Option (List Char × TemplateEnd × Cursor)
  | 0, _ => none
  | fuel + 1, c =>
    match c.rest with
    | [] => none
    | '\x60' :: _ => some ([], .close, c.advance)
    | '$' :: '\x7b' :: _ => some ([], .hole, c.skip 2)
    | '\\' :: d :: _ => (scanTemplate fuel (c.skip 2)).map fun (s, e, n) => ('\\' :: d :: s, e, n)
    | '\r' :: '\n' :: _ => (scanTemplate fuel (c.skip 2)).map fun (s, e, n) => ('\n' :: s, e, n)
    | d :: _ => (scanTemplate fuel c.advance).map fun (s, e, n) => (d :: s, e, n)

/-- The name of an element or an attribute, or a part of it. -/
def scanJsxName (c : Cursor) : String × Cursor :=
  match c.rest with
  | d :: _ =>
    if isNameStart d then
      let stop := c.skipWhile fun e => isNamePart e || e = '-'
      (c.upTo stop, stop)
    else ("", c)
  | [] => ("", c)

/-- The text between elements: everything up to a brace or an angle bracket. -/
def scanJsxText (c : Cursor) : List Char × Cursor :=
  let raw := c.rest.takeWhile fun d => !(d = '\x7b' || d = '<' || d = '\x7d' || d = '>')
  (raw, c.skip raw.length)

/-- A string as the value of an attribute: the characters between the quotes, and what follows
the closing quote. -/
def scanJsxString (quote : Char) (c : Cursor) : Option (List Char × Cursor) :=
  let raw := c.rest.takeWhile (· ≠ quote)
  if raw.length = c.rest.length then none else some (raw, c.skip (raw.length + 1))

end DocPreview.Script
