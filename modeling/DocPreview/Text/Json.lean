import DocPreview.Text.Basic

/-!
# JSON texts

Values of JSON and their compact text. A string is written between double quotes, where a quote,
a backslash and the characters below U+0020 are escaped and all others stand for themselves.
-/

namespace DocPreview

/-- A value of JSON. A number is kept as its text, an object as its members in order. -/
inductive Json where
  | null
  | bool (b : Bool)
  | number (text : String)
  | string (s : String)
  | array (items : List Json)
  | object (members : List (String × Json))
  deriving Repr, BEq, Inhabited

namespace Json

/-- The hexadecimal digit of a number below sixteen. -/
def hexDigit (n : Nat) : Char :=
  if n < 10 then Char.ofNat ('0'.toNat + n) else Char.ofNat ('a'.toNat + (n - 10))

/-- One character of a string as written between the quotes. -/
def escapeChar (c : Char) : Text :=
  match c with
  | '"' => ['\\', '"']
  | '\\' => ['\\', '\\']
  | '\n' => ['\\', 'n']
  | '\r' => ['\\', 'r']
  | '\t' => ['\\', 't']
  | c =>
    if c.toNat = 8 then ['\\', 'b']
    else if c.toNat = 12 then ['\\', 'f']
    else if c.toNat < 0x20 then
      ['\\', 'u', '0', '0', hexDigit (c.toNat / 16), hexDigit (c.toNat % 16)]
    else [c]

/-- A text as written between the quotes of a string. -/
def escape (s : Text) : Text := s.flatMap escapeChar

/-- A text as a string of JSON. -/
def quote (s : Text) : Text := '"' :: escape s ++ ['"']

/-- A string as a string of JSON. -/
def quoteString (s : String) : String := String.ofList (quote s.toList)

mutual

/-- The compact text of a value. -/
def compact : Json → String
  | .null => "null"
  | .bool b => if b then "true" else "false"
  | .number t => t
  | .string s => quoteString s
  | .array items => "[" ++ compactItems items ++ "]"
  | .object members => "\x7b" ++ compactMembers members ++ "\x7d"

/-- The items of an array, separated by commas. -/
def compactItems : List Json → String
  | [] => ""
  | [v] => compact v
  | v :: vs => compact v ++ "," ++ compactItems vs

/-- The members of an object, separated by commas. -/
def compactMembers : List (String × Json) → String
  | [] => ""
  | [(k, v)] => quoteString k ++ ":" ++ compact v
  | (k, v) :: ms => quoteString k ++ ":" ++ compact v ++ "," ++ compactMembers ms

end

end Json

end DocPreview
