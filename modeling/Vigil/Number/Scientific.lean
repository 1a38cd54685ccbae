import Vigil.Number.Decimal
import Vigil.Text.Case

/-!
# Numbers in scientific notation

The wide notation of numbers, for data that comes from outside the expression language: a sign,
digits with a point anywhere among them, a power of ten after an `e`, and words for the numbers
that are not finite.
-/

namespace Vigil.Decimal

/-- A signed whole number: an optional sign and digits. -/
def readInt? (text : List Char) : Option Int :=
  let unsigned? (digits : List Char) : Option Nat :=
    if !digits.isEmpty && digits.all isDigit then some (digitsValue 0 digits) else none
  match text with
  | '-' :: digits => (unsigned? digits).map fun value => -(value : Int)
  | '+' :: digits => (unsigned? digits).map fun value => (value : Int)
  | digits => (unsigned? digits).map fun value => (value : Int)

/-- Read digits with at most one point among them and an optional power of ten. -/
def readScientific? (text : List Char) : Option Decimal :=
  let whole := text.takeWhile isDigit
  let rest := text.dropWhile isDigit
  let (fraction, rest) :=
    match rest with
    | '.' :: rest => (rest.takeWhile isDigit, rest.dropWhile isDigit)
    | rest => ([], rest)
  if whole.isEmpty && fraction.isEmpty then
    none
  else
    let decimal (power : Int) : Decimal :=
      ⟨digitsValue 0 (whole ++ fraction), power - fraction.length⟩
    match rest with
    | [] => some (decimal 0)
    | mark :: power =>
      if mark = 'e' ∨ mark = 'E' then (readInt? power).map decimal else none

/--
The number nearest to a decimal with any exponent. Far outside the range of finite numbers the
result is known from the place of the first digit alone.
-/
def toNumberInRange (negative : Bool) (decimal : Decimal) : Number :=
  let leading := decimal.exponent + (digitsOf decimal.digits).length
  if decimal.digits = 0 ∨ leading < -330 then Number.zero negative
  else if 330 < leading then .infinity negative
  else decimal.toNumber negative

end Vigil.Decimal

namespace Vigil.Number

/-- Read a number in scientific notation. -/
def ofText? (text : String) : Option Number :=
  let (negative, characters) :=
    match text.toList with
    | '-' :: rest => (true, rest)
    | '+' :: rest => (false, rest)
    | rest => (false, rest)
  if Text.sameIgnoringCase characters "nan".toList then
    some .nan
  else if Text.sameIgnoringCase characters "inf".toList ||
      Text.sameIgnoringCase characters "infinity".toList then
    some (.infinity negative)
  else
    (Decimal.readScientific? characters).map (Decimal.toNumberInRange negative)

end Vigil.Number
