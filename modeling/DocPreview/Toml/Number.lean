import DocPreview.Decimal.Double
import DocPreview.Toml.Reader

/-!
# Numbers and dates of TOML

Digits can be grouped by underscores between them. An integer is a decimal without leading zeros,
or has the base sixteen, eight or two; it has 64 bits. A number with a fraction or an exponent is
the nearest double. A date is only recognized.
-/

namespace DocPreview.Toml

open Reader Decimal

/-! ### Digits -/

/-- A digit that must come after an underscore. -/
def groupedDigit (isDigit : Char → Bool) : Reader Unit := do
  let _ ← char '_'
  let _ ← commit (expecting ["digit"] (satisfying isDigit))

/-- More digits, which can be grouped. -/
def moreDigits (isDigit : Char → Bool) : Reader Unit := do
  let _ ← many (orElse (do let _ ← satisfying isDigit) (groupedDigit isDigit))

/-- Digits, which can be grouped. -/
def groupedDigits (isDigit : Char → Bool) : Reader Unit := do
  let _ ← satisfying isDigit
  moreDigits isDigit

/-- A sign. -/
def sign : Reader (Option Char) := optional (satisfying fun c => c = '+' || c = '-')

/-- A text without underscores. -/
def dropUnderscores (s : Text) : Text := s.filter (· ≠ '_')

/-! ### Integers -/

/-- A decimal without leading zeros, with an optional sign. -/
def decimalDigits : Reader Text := named "integer" <| taken do
  let _ ← sign
  orElse (do
    let _ ← satisfying fun c => '1' ≤ c && c ≤ '9'
    moreDigits Char.isDigit) (do
    let _ ← satisfying Char.isDigit)

/-- An integer of 64 bits. -/
def integerOf (isNegative : Bool) (n : Nat) : Except Problem Int :=
  if isNegative then
    if n ≤ Nat.pow 2 63 then .ok (-n) else .error (.refused "number too small to fit in target type")
  else
    if n < Nat.pow 2 63 then .ok n else .error (.refused "number too large to fit in target type")

/-- An integer in decimal digits. -/
def decimalInteger : Reader Int :=
  require decimalDigits fun s =>
    let (isNegative, digits) := readSign (dropUnderscores s)
    integerOf isNegative (digitsValue digits)

/-- The value of a digit of a base up to sixteen. -/
def digitValue (c : Char) : Nat :=
  if c.isDigit then c.toNat - '0'.toNat
  else if 'a' ≤ c && c ≤ 'f' then c.toNat - 'a'.toNat + 10
  else c.toNat - 'A'.toNat + 10

/-- Whether a character is a digit of a base. -/
def isDigitOf (base : Nat) (c : Char) : Bool :=
  (c.isDigit || ('a' ≤ c && c ≤ 'f') || ('A' ≤ c && c ≤ 'F')) && digitValue c < base

/-- An integer in the digits of a base, after a mark for the base. -/
def integerIn (base : Nat) (mark label : String) : Reader Int :=
  commit <| check
    (named label do
      word mark.toList
      commit (taken (groupedDigits (isDigitOf base))))
    fun s => integerOf false ((dropUnderscores s).foldl (fun n c => base * n + digitValue c) 0)

/-- An integer. -/
def integer : Reader Int := do
  match ← lookTwo with
  | ['0', 'x'] => integerIn 16 "0x" "hexadecimal integer"
  | ['0', 'o'] => integerIn 8 "0o" "octal integer"
  | ['0', 'b'] => integerIn 2 "0b" "binary integer"
  | _ => decimalInteger

/-! ### Numbers with a fraction -/

/-- A number with a fraction. -/
inductive Number where
  | finite (x : Double)
  | infinite (isNegative : Bool)
  | notANumber
  deriving Repr, DecidableEq

/-- The text of a number. -/
def Number.text : Number → String
  | finite x => String.ofList x.positionalText
  | infinite isNegative => if isNegative then "-inf" else "inf"
  | notANumber => "NaN"

/-- The exponent of a number. -/
def exponent : Reader Unit := do
  let _ ← satisfying fun c => c = 'e' || c = 'E'
  let _ ← sign
  commit (groupedDigits Char.isDigit)

/-- The fraction of a number. -/
def fraction : Reader Unit := do
  let _ ← char '.'
  commit (expecting ["digit"] (groupedDigits Char.isDigit))

/-- The number that a decimal stands for; a positive one must not be too large. -/
def numberOf (s : Text) : Except Problem Number :=
  match readDecimal? (dropUnderscores s) with
  | none => .error .unknown
  | some d =>
    match Double.ofDecimal? d with
    | some x => .ok (.finite x)
    | none => if d.isNegative then .ok (.infinite true) else .error .unknown

/-- A decimal with a fraction or an exponent. -/
def decimalNumber : Reader Number :=
  require (taken do
    let _ ← decimalDigits
    orElse exponent do
      fraction
      let _ ← optional exponent) numberOf

/-- A number that is no decimal. -/
def specialNumber : Reader Number := do
  let s ← sign
  orElse (do
    word "inf".toList
    return .infinite (s = some '-')) (do
    word "nan".toList
    return .notANumber)

/-- A number with a fraction. -/
def number : Reader Number :=
  named "floating-point number" (orElse decimalNumber specialNumber)

/-! ### Dates and times -/

/-- A number of exactly `size` digits. -/
def fixedDigits (size : Nat) : Reader Nat :=
  check (takeUpTo size Char.isDigit) fun s =>
    if s.length = size then .ok (digitsValue s) else .error .unknown

/-- A number of two digits within bounds. -/
def boundedDigits (least most : Nat) : Reader Nat :=
  check (fixedDigits 2) fun n =>
    if least ≤ n && n ≤ most then .ok n else .error (.refused "value is out of range")

/-- The number of days of a month. -/
def daysOf (year month : Nat) : Nat :=
  if month = 2 then
    if year % 4 = 0 && (year % 100 ≠ 0 || year % 400 = 0) then 29 else 28
  else if month = 4 || month = 6 || month = 9 || month = 11 then 30
  else 31

/-- A day. -/
def date : Reader Unit := do
  let year ← fixedDigits 4
  let _ ← char '-'
  let month ← commit (boundedDigits 1 12)
  let _ ← commit (char '-')
  let _ ← require (commit (boundedDigits 1 31)) fun day =>
    if day ≤ daysOf year month then .ok () else .error (.refused "value is out of range")

/-- A time of day. -/
def time : Reader Unit := do
  let _ ← boundedDigits 0 23
  let _ ← char ':'
  commit do
    let _ ← boundedDigits 0 59
    let _ ← char ':'
    let _ ← boundedDigits 0 60
    let _ ← optional do
      let _ ← char '.'
      let _ ← takeWhile1 Char.isDigit

/-- The distance of a time from that of Greenwich. -/
def timeOffset : Reader Unit := named "time offset" <|
  orElse (do let _ ← satisfying fun c => c = 'Z' || c = 'z') do
    let _ ← satisfying fun c => c = '+' || c = '-'
    commit do
      let _ ← boundedDigits 0 23
      let _ ← char ':'
      let _ ← boundedDigits 0 59

/-- A day, a time or both. -/
def dateTime : Reader Unit :=
  orElse
    (named "date-time" do
      date
      let _ ← optional do
        let _ ← satisfying fun c => c = 'T' || c = 't' || c = ' '
        time
        let _ ← optional timeOffset)
    (named "time" time)

end DocPreview.Toml
