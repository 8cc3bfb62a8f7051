import DocPreview.Text.Basic

/-!
# Numbers of double precision

A finite number of double precision is a sign, a mantissa below 2 ^ 53 and a power of two. A
decimal number stands for the nearest of them, the one with an even mantissa if two are equally
near. The text of a number has the fewest digits that read back as the number, and among those the
digits nearest to it.

## Main definitions

* `Double`: the finite numbers of double precision.
* `Double.ofDecimal?`: the number for a decimal, unless it is too large.
* `readDecimal?`: the decimal that a text writes.
* `Double.shortest`: the shortest decimal that reads back as a number.
* `Double.text`: its text, with an exponent if the number is very large or very small.
-/

namespace DocPreview.Decimal

/-- The number `mantissa * 2 ^ exponent`, negated if the sign says so. -/
structure Double where
  isNegative : Bool
  mantissa : Nat
  exponent : Int
  deriving Repr, DecidableEq

/-- A decimal number: `digits * 10 ^ exponent`, negated if the sign says so. -/
structure DecimalNumber where
  isNegative : Bool
  digits : Nat
  exponent : Int
  deriving Repr, DecidableEq

/-- A fraction rounded to the nearest number, to an even one if two are equally near. -/
def roundFraction (num den : Nat) : Nat :=
  let q := num / den
  let r := num % den
  if 2 * r < den then q
  else if den < 2 * r then q + 1
  else if q % 2 = 0 then q
  else q + 1

/-- The powers of a base as the factors of a fraction. -/
def scale (base : Nat) (e : Int) (num den : Nat) : Nat × Nat :=
  if 0 ≤ e then (num * base.pow e.toNat, den) else (num, den * base.pow (-e).toNat)

/-- The exponent of the largest power of two that is not above a fraction. -/
def log2Fraction (num den : Nat) : Int :=
  let guess : Int := (Nat.log2 num : Int) - (Nat.log2 den : Int)
  let (n, d) := scale 2 (-guess) num den
  if n < d then guess - 1 else guess

namespace Double

/-- The least exponent of two. -/
def leastExponent : Int := -1074

/-- The greatest exponent of two. -/
def greatestExponent : Int := 971

/-- The nearest number to a fraction, unless it is too large. -/
def ofFraction? (isNegative : Bool) (num den : Nat) : Option Double :=
  if num = 0 then some ⟨isNegative, 0, leastExponent⟩
  else
    let e := max leastExponent (log2Fraction num den - 52)
    let (n, d) := scale 2 (-e) num den
    let m := roundFraction n d
    let (m, e) := if m = Nat.pow 2 53 then (Nat.pow 2 52, e + 1) else (m, e)
    if greatestExponent < e then none else some ⟨isNegative, m, e⟩

/-- The nearest number to a decimal, unless it is too large. -/
def ofDecimal? (d : DecimalNumber) : Option Double :=
  let size : Int := (Nat.toDigits 10 d.digits).length + d.exponent
  if d.digits = 0 || size < -330 then some ⟨d.isNegative, 0, leastExponent⟩
  else if 310 < size then none
  else
    let (num, den) := scale 10 d.exponent d.digits 1
    ofFraction? d.isNegative num den

end Double

/-! ### Decimals as texts -/

/-- The number that digits stand for. -/
def digitsValue (s : Text) : Nat := s.foldl (fun n c => n * 10 + (c.toNat - '0'.toNat)) 0

/-- A sign and the rest of a text. -/
def readSign : Text → Bool × Text
  | '-' :: r => (true, r)
  | '+' :: r => (false, r)
  | r => (false, r)

/-- The exponent that a text consists of, after its letter. -/
def readExponent? (s : Text) : Option Int :=
  match s with
  | [] => some 0
  | c :: r =>
    if c = 'e' || c = 'E' then
      let (isNegative, digits) := readSign r
      if digits.isEmpty || !digits.all Char.isDigit then none
      else
        let n : Int := digitsValue digits
        some (if isNegative then -n else n)
    else none

/-- The decimal that a text writes: digits with at most one point, and perhaps a sign and an
exponent. -/
def readDecimal? (s : Text) : Option DecimalNumber := do
  let (isNegative, r) := readSign s
  let whole := r.takeWhile Char.isDigit
  let r := r.dropWhile Char.isDigit
  let (fraction, r) := match r with
    | '.' :: r => (r.takeWhile Char.isDigit, r.dropWhile Char.isDigit)
    | r => ([], r)
  guard !(whole.isEmpty && fraction.isEmpty)
  let e ← readExponent? r
  return ⟨isNegative, digitsValue (whole ++ fraction), e - fraction.length⟩

namespace Double

/-- The numbers from `low / den` to `high / den` read back as the number `value / den`; the ends
do so if they are `closed`. -/
structure Interval where
  low : Nat
  value : Nat
  high : Nat
  den : Nat
  isClosed : Bool
  deriving Repr, DecidableEq

/-- The decimals that read back as a number. -/
def interval (x : Double) : Interval :=
  let (num, den) := scale 2 (x.exponent - 2) 1 1
  let below := if x.mantissa = Nat.pow 2 52 && x.exponent ≠ leastExponent then 1 else 2
  ⟨(4 * x.mantissa - below) * num, 4 * x.mantissa * num, (4 * x.mantissa + 2) * num, den,
    x.mantissa % 2 = 0⟩

/-- Whether the decimal `digits * 10 ^ k` reads back as the number. -/
def Interval.contains (i : Interval) (digits : Nat) (k : Int) : Bool :=
  let (n, d) := scale 10 k digits 1
  if i.isClosed then i.low * d ≤ n * i.den && n * i.den ≤ i.high * d
  else i.low * d < n * i.den && n * i.den < i.high * d

/-- The number of digits before the point of a fraction; it is not positive below a tenth. -/
def digitCount (num den : Nat) : Int :=
  let guess : Int :=
    ((Nat.toDigits 10 num).length : Int) - ((Nat.toDigits 10 den).length : Int)
  let (n, d) := scale 10 (-guess) num den
  if n < d then guess else guess + 1

/-- The decimal with `n` digits or fewer that is nearest to the number, if it reads back. -/
def nearest? (i : Interval) (k : Int) : Option Nat :=
  let (num, den) := scale 10 (-k) i.value i.den
  let down := num / den
  let isDown := i.contains down k
  let isUp := i.contains (down + 1) k
  if isDown && isUp then
    some (if 2 * (num % den) < den then down
      else if den < 2 * (num % den) then down + 1
      else if down % 2 = 0 then down else down + 1)
  else if isDown then some down
  else if isUp then some (down + 1)
  else none

/-- The shortest decimal that reads back, with the given number of digits or more. -/
def shortestFrom (i : Interval) (size : Int) : Nat → Nat → Nat × Int
  | 0, n => (i.value / i.den, n)
  | fuel + 1, n =>
    let k := size - n
    match nearest? i k with
    | some digits => (digits, k)
    | none => shortestFrom i size fuel (n + 1)

/-- A decimal without zeros at the end of its digits, of which there are at most `fuel`. -/
def dropZeros : Nat → Nat → Int → Nat × Int
  | 0, digits, k => (digits, k)
  | fuel + 1, digits, k =>
    if digits ≠ 0 && digits % 10 = 0 then dropZeros fuel (digits / 10) (k + 1) else (digits, k)

/-- The shortest decimal that reads back as a number. -/
def shortest (x : Double) : DecimalNumber :=
  if x.mantissa = 0 then ⟨x.isNegative, 0, 0⟩
  else
    let i := x.interval
    let (digits, k) := shortestFrom i (digitCount i.value i.den) 20 1
    let (digits, k) := dropZeros 20 digits k
    ⟨x.isNegative, digits, k⟩

/-- The greatest number of digits before the point. -/
def mostWholeDigits : Int := 16

/-- The greatest number of zeros between the point and the first other digit. -/
def mostZeros : Int := 4

/-- The digits of a decimal with the point where it belongs. -/
def positional (digits : Text) (k : Int) : Text :=
  let point : Int := digits.length + k
  let zeros (n : Int) : Text := List.replicate n.toNat '0'
  if 0 ≤ k then digits ++ zeros k ++ ".0".toList
  else if 0 < point then digits.take point.toNat ++ '.' :: digits.drop point.toNat
  else "0.".toList ++ zeros (-point) ++ digits

/-- The digits of a decimal with the point where it belongs, or with an exponent. -/
def layout (digits : Text) (k : Int) : Text :=
  let point : Int := digits.length + k
  if -mostZeros ≤ point && point ≤ mostWholeDigits then positional digits k
  else
    let exponent := 'e' :: (toString (point - 1)).toList
    match digits with
    | [] => exponent
    | [d] => d :: exponent
    | d :: ds => d :: '.' :: ds ++ exponent

/-- The text of a number, given how its digits are laid out. -/
def textWith (lay : Text → Int → Text) (x : Double) : Text :=
  let d := x.shortest
  let sign := if d.isNegative then ['-'] else []
  sign ++ if d.digits = 0 then "0.0".toList else lay (Nat.toDigits 10 d.digits) d.exponent

/-- The text of a number. -/
def text (x : Double) : Text := textWith layout x

/-- The text of a number without an exponent. -/
def positionalText (x : Double) : Text := textWith positional x

end Double

end DocPreview.Decimal
