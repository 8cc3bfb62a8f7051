import DocPreview.Script.Tree
import DocPreview.Text.Basic

/-!
# Pages

A string of a script is written between double quotes, or between single ones if it holds more
double quotes than single ones. Control characters, line separators and backslashes are escaped.

A page takes text piece by piece. It indents each line by its level when something is written on
it, and a line break at the start of a line writes nothing. A page also holds the comments that
are still to be written.
-/

namespace DocPreview.Script

/-- The lower hexadecimal digits of a number below 256, two of them. -/
def twoHexDigits (n : Nat) : String :=
  let digits := Nat.toDigits 16 n
  String.ofList (if digits.length < 2 then '0' :: digits else digits)

/-- A character of a string as written, quotes apart; `next` is the character after it. -/
def escapeStringChar (c : Char) (next : Option Char) : String :=
  let n := c.toNat
  if n = 0 then
    if next.any Char.isDigit then "\\x00" else "\\0"
  else if n = 8 then "\\b"
  else if n = 12 then "\\f"
  else if c = '\n' then "\\n"
  else if c = '\r' then "\\r"
  else if n = 11 then "\\v"
  else if c = '\t' then "\t"
  else if c = '\\' then "\\\\"
  else if n < 0x20 then "\\x" ++ twoHexDigits n
  else if n = 0x2028 then "\\u2028"
  else if n = 0x2029 then "\\u2029"
  else if n = 0xFEFF then "\\uFEFF"
  else c.toString

/-- The characters of a string as written between quotes `quote`. -/
def escapeString (quote : Char) : List Char → List String
  | [] => []
  | c :: r =>
    (if c = quote then "\\" ++ c.toString else escapeStringChar c r.head?) :: escapeString quote r

/-- A string as written. -/
def quoteScript (s : String) : String :=
  let cs := s.toList
  let quote := if cs.count '"' > cs.count '\'' then '\'' else '"'
  quote.toString ++ String.join (escapeString quote cs) ++ quote.toString

/-- What has been written so far. -/
structure Page where
  /-- The pieces of the text, the latest first. -/
  pieces : List String
  /-- The number of indentations of a line. -/
  level : Nat
  /-- Whether nothing stands on the current line. -/
  isLineStart : Bool
  comments : List PlacedComment
  deriving Inhabited

/-- The text written so far. -/
def Page.text (p : Page) : Text := p.pieces.reverse.flatMap String.toList

/-- An action that writes. -/
abbrev Writer := StateM Page

namespace Writer

/-- The empty page with comments to write. -/
def blank (comments : List PlacedComment) : Page := ⟨[], 0, true, comments⟩

/-- The blanks of some indentations. -/
def indentation (level : Nat) : String := String.ofList (List.replicate (4 * level) ' ')

/-- Writes a text on the current line. -/
def put (s : String) : Writer Unit :=
  modify fun p =>
    if s.isEmpty then p
    else if p.isLineStart then
      { p with pieces := s :: indentation p.level :: p.pieces, isLineStart := false }
    else { p with pieces := s :: p.pieces }

/-- Ends the current line, unless nothing stands on it. -/
def line : Writer Unit :=
  modify fun p =>
    if p.isLineStart then p else { p with pieces := "\n" :: p.pieces, isLineStart := true }

/-- Writes with one more indentation. -/
def indented (w : Writer Unit) : Writer Unit := do
  modify fun p => { p with level := p.level + 1 }
  w
  modify fun p => { p with level := p.level - 1 }

/-- Writes items with `between` after all but the last one. -/
def separated (between : Writer Unit) : List (Writer Unit) → Writer Unit
  | [] => return ()
  | [w] => w
  | w :: ws => do
    w
    between
    separated between ws

/-- Writes items on one line with commas between them. -/
def commas (ws : List (Writer Unit)) : Writer Unit := separated (put ", ") ws

/-- Writes items between two delimiters, each item on a line of its own. -/
def lined (opener closer mark : String) (ws : List (Writer Unit)) : Writer Unit := do
  put opener
  line
  indented (separated (do put mark; line) ws)
  line
  put closer

/-- Writes an item, if there is one, after a text. -/
def after (text : String) : Option (Writer Unit) → Writer Unit
  | none => return ()
  | some w => do
    put text
    w

/-- Writes one comment. -/
def comment (blankBefore : Bool) (c : Comment) : Writer Unit := do
  if blankBefore then
    put " "
  if c.isLine then
    put ("//" ++ c.text)
    line
  else
    put ("/*" ++ c.text ++ "*/")
    put " "

/-- Takes the comments of a position from the page. -/
def takeComments (isLeading : Bool) (place : Nat) : Writer (List Comment) := do
  let p ← get
  let isMine (c : PlacedComment) : Bool := c.isLeading == isLeading && c.place == place
  let mine := p.comments.filter isMine
  if mine.isEmpty then
    return []
  set { p with comments := p.comments.filter fun c => !isMine c }
  return mine.map (·.comment)

/-- Writes the comments before a position. -/
def leading (place : Nat) : Writer Unit := do
  if (← get).comments.isEmpty then
    return ()
  (← takeComments true place).forM (comment false)

/-- Writes the comments after a position. -/
def trailing (place : Nat) : Writer Unit := do
  if (← get).comments.isEmpty then
    return ()
  (← takeComments false place).forM (comment true)

end Writer

end DocPreview.Script
