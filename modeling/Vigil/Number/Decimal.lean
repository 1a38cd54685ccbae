import Vigil.Number

/-!
# Decimal notation

Plain decimal notation is a row of digits with at most one point inside. Reading rounds the
exact decimal to the nearest number. Writing uses the fewest digits that read back as the same
number: `Decimal.shortest` tries one digit, two digits and so on, and keeps the first decimal
that reads back; of two such decimals of one length it takes the nearer.
-/

namespace Vigil

/-- The number `digits * 10 ^ exponent`, not rounded. -/
structure Decimal where
  digits : Nat
  exponent : Int
deriving DecidableEq, Repr

namespace Decimal

/-- Ten to a power. -/
def tenTo (power : Nat) : Nat :=
  Nat.pow 10 power

/-! ## From decimals to numbers -/

/-- The quotient of steps that a decimal stands for: numerator and denominator. -/
def quotient (decimal : Decimal) : Nat × Nat :=
  match decimal.exponent with
  | .ofNat power => (decimal.digits * tenTo power * Magnitude.unit, 1)
  | .negSucc power => (decimal.digits * Magnitude.unit, tenTo (power + 1))

/-- The magnitude nearest to a decimal, if it is not too large. -/
def magnitude? (decimal : Decimal) : Option Magnitude :=
  Magnitude.nearest? decimal.quotient.1 decimal.quotient.2

/-- The number nearest to a decimal. -/
def toNumber (negative : Bool) (decimal : Decimal) : Number :=
  Number.rounded negative decimal.quotient.1 decimal.quotient.2

/-! ## Reading -/

/-- Whether a character is one of the ten digits. -/
def isDigit (character : Char) : Bool :=
  '0' ≤ character && character ≤ '9'

/-- The number written by a row of digits, after those already read. -/
def digitsValue (value : Nat) : List Char → Nat
  | [] => value
  | digit :: rest => digitsValue (10 * value + (digit.toNat - '0'.toNat)) rest

/--
Read a text in plain decimal notation: digits, or digits on both sides of a point. Any other
text has no meaning here.
-/
def read? (text : List Char) : Option Decimal :=
  let whole := text.takeWhile isDigit
  let rest := text.dropWhile isDigit
  if whole.isEmpty then
    none
  else
    match rest with
    | [] => some ⟨digitsValue 0 whole, 0⟩
    | '.' :: fraction =>
      if !fraction.isEmpty && fraction.all isDigit then
        some ⟨digitsValue 0 (whole ++ fraction), -(fraction.length : Int)⟩
      else
        none
    | _ => none

/-! ## The fewest digits that read back -/

/-- Where two decimals of one length lie equally near, which of them is written. -/
inductive Tie where
  | larger
  | even
deriving DecidableEq, Repr

/-- The digits of a natural number, most significant first. -/
def digitsOf (value : Nat) : List Char :=
  (Nat.repr value).toList

/-- A decimal without the zeros at the end of its digits, up to `fuel` of them. -/
def dropZeros : (fuel : Nat) → Decimal → Decimal
  | 0, decimal => decimal
  | fuel + 1, decimal =>
    if decimal.digits % 10 = 0 then
      dropZeros fuel ⟨decimal.digits / 10, decimal.exponent + 1⟩
    else
      decimal

/-- Whether a decimal reads as a given magnitude. -/
def readsAs (magnitude : Magnitude) (decimal : Decimal) : Bool :=
  decimal.magnitude? == some magnitude

/-- The exponent of the first digit of a positive magnitude. -/
def leadingExponent (magnitude : Magnitude) : Int :=
  (digitsOf (magnitude.steps * tenTo 400 / Magnitude.unit)).length - 401

/-- A magnitude as a multiple of a power of ten: numerator and denominator. -/
def scale (magnitude : Magnitude) (exponent : Int) : Nat × Nat :=
  match exponent with
  | .ofNat power => (magnitude.steps, Magnitude.unit * tenTo power)
  | .negSucc power => (magnitude.steps * tenTo (power + 1), Magnitude.unit)

/--
The decimals with `count` digits and a given exponent on either side of a quotient, the nearer one
first.
-/
def neighbours
    (tie : Tie) (count : Nat) (exponent : Int) (quotient : Nat × Nat) : List Decimal :=
  let (numerator, denominator) := quotient
  let below := numerator / denominator
  let doubled := 2 * (numerator % denominator)
  let lower := dropZeros count ⟨below, exponent⟩
  let upper := dropZeros count ⟨below + 1, exponent⟩
  let upperNearer :=
    denominator < doubled ||
      (denominator == doubled && (tie == .larger || below % 2 == 1))
  if upperNearer then [upper, lower] else [lower, upper]

/-- The decimal with `count` digits that is written for a magnitude, if one reads back. -/
def withDigits? (tie : Tie) (magnitude : Magnitude) (count : Nat) : Option Decimal :=
  let exponent := leadingExponent magnitude + 1 - count
  (neighbours tie count exponent (scale magnitude exponent)).find? (readsAs magnitude)

/-- A magnitude written out in full: half a step is five tenths of a step, and so on down. -/
def exact (magnitude : Magnitude) : Decimal :=
  ⟨magnitude.steps * Nat.pow 5 1074, -1074⟩

/-- The decimal with the fewest digits that reads back as a given magnitude. -/
def shortest (tie : Tie) (magnitude : Magnitude) : Decimal :=
  if magnitude.steps = 0 then
    ⟨0, 0⟩
  else
    ((List.range' 1 17).findSome? (withDigits? tie magnitude)).getD (exact magnitude)

/-! ## Writing -/

/-- Plain notation: no power of ten, and a point only where a fraction follows. -/
def positional (decimal : Decimal) : List Char :=
  let digits := digitsOf decimal.digits
  match decimal.exponent with
  | .ofNat power => digits ++ List.replicate power '0'
  | .negSucc power =>
    let places := power + 1
    if places < digits.length then
      digits.take (digits.length - places) ++ '.' :: digits.drop (digits.length - places)
    else
      '0' :: '.' :: List.replicate (places - digits.length) '0' ++ digits

end Decimal

end Vigil
