import Vigil.Number.Magnitude

/-!
# Floating-point numbers

The numbers of the expression language: the finite numbers of binary64, two infinities, and one
value for results that are no number. Each number but the last has a *position* on a line of
steps of `2 ^ -1074`, on which the infinities lie just beyond all finite numbers; comparison is
comparison of positions, so zero and negative zero are equal and `nan` is comparable with
nothing.

Sums, products, quotients and remainders are computed exactly and rounded once.
-/

namespace Vigil

/-- A floating-point number. The sign of zero is kept. -/
inductive Number where
  | nan
  | infinity (negative : Bool)
  | finite (negative : Bool) (magnitude : Magnitude)
deriving DecidableEq

namespace Number

/-! ## Position and order -/

/-- A signed count: negated where `negative` holds. -/
def signed (negative : Bool) (count : Nat) : Int :=
  if negative then -(count : Int) else count

/-- The place of a number on the line of steps. -/
def position : Number → Option Int
  | nan => none
  | infinity negative => some (signed negative Magnitude.limit)
  | finite negative magnitude => some (signed negative magnitude.steps)

/-- Comparison of two numbers by their positions; it fails where one of them has none. -/
def compareBy (holds : Int → Int → Bool) (left right : Number) : Bool :=
  match left.position, right.position with
  | some first, some second => holds first second
  | _, _ => false

/-- Whether two numbers lie at the same place. -/
def equals : Number → Number → Bool :=
  compareBy fun first second => first == second

/-- Whether the first number lies before the second. -/
def less : Number → Number → Bool :=
  compareBy fun first second => first < second

/-- Whether the first number lies before the second or at the same place. -/
def lessOrEqual : Number → Number → Bool :=
  compareBy fun first second => first ≤ second

/-- Whether a number is neither infinite nor `nan`. -/
def isFinite : Number → Bool
  | finite _ _ => true
  | _ => false

/-! ## Rounding -/

/-- The signed zeros. -/
def zero (negative : Bool) : Number :=
  finite negative Magnitude.zero

/-- A quotient of steps rounded to a number; what is too large becomes infinite. -/
def rounded (negative : Bool) (numerator denominator : Nat) : Number :=
  match Magnitude.nearest? numerator denominator with
  | some magnitude => finite negative magnitude
  | none => infinity negative

/-- The number nearest to an integer. -/
def ofInt (value : Int) : Number :=
  rounded (value < 0) (value.natAbs * Magnitude.unit) 1

/-- The number nearest to a natural number. -/
def ofNat (value : Nat) : Number :=
  rounded false (value * Magnitude.unit) 1

/-! ## Arithmetic -/

/-- The number of the opposite sign. -/
protected def neg : Number → Number
  | nan => nan
  | infinity negative => infinity !negative
  | finite negative magnitude => finite (!negative) magnitude

/-- The sum. An exact zero is positive unless both terms are negative. -/
protected def add : Number → Number → Number
  | nan, _ => nan
  | _, nan => nan
  | infinity first, infinity second => if first = second then infinity first else nan
  | infinity first, finite _ _ => infinity first
  | finite _ _, infinity second => infinity second
  | finite first left, finite second right =>
    let sum := signed first left.steps + signed second right.steps
    if sum = 0 then zero (first && second) else rounded (sum < 0) sum.natAbs 1

/-- The difference, as the sum with the opposite number. -/
protected def sub (left right : Number) : Number :=
  left.add right.neg

/-- The product. -/
protected def mul : Number → Number → Number
  | nan, _ => nan
  | _, nan => nan
  | infinity first, infinity second => infinity (first ^^ second)
  | infinity first, finite second right =>
    if right.steps = 0 then nan else infinity (first ^^ second)
  | finite first left, infinity second =>
    if left.steps = 0 then nan else infinity (first ^^ second)
  | finite first left, finite second right =>
    rounded (first ^^ second) (left.steps * right.steps) Magnitude.unit

/-- The quotient. A finite number divided by zero is infinite, zero divided by zero is `nan`. -/
protected def div : Number → Number → Number
  | nan, _ => nan
  | _, nan => nan
  | infinity _, infinity _ => nan
  | infinity first, finite second _ => infinity (first ^^ second)
  | finite first _, infinity second => zero (first ^^ second)
  | finite first left, finite second right =>
    if right.steps = 0 then
      if left.steps = 0 then nan else infinity (first ^^ second)
    else
      rounded (first ^^ second) (left.steps * Magnitude.unit) right.steps

/-- The remainder of the division toward zero; it has the sign of the dividend. -/
protected def rem : Number → Number → Number
  | nan, _ => nan
  | _, nan => nan
  | infinity _, _ => nan
  | finite first left, infinity _ => finite first left
  | finite first left, finite _ right =>
    if right.steps = 0 then nan else rounded first (left.steps % right.steps) 1

instance : Neg Number := ⟨Number.neg⟩
instance : Add Number := ⟨Number.add⟩
instance : Sub Number := ⟨Number.sub⟩
instance : Mul Number := ⟨Number.mul⟩
instance : Div Number := ⟨Number.div⟩
instance : Mod Number := ⟨Number.rem⟩

/-! ## The binary64 encoding -/

/--
The sign, exponent and fraction fields of a number, read as one natural number. Numbers with few
steps have the exponent field zero and their steps as fraction; every further bit adds one to
the exponent.
-/
def bits? : Number → Option Nat
  | nan => none
  | infinity negative => some (signBit negative + 2047 * Magnitude.twoTo 52)
  | finite negative magnitude =>
    let exponent := magnitude.steps.log2 - 52
    let fraction := magnitude.steps / Magnitude.twoTo exponent
    some (signBit negative + (exponent * Magnitude.twoTo 52 + fraction))
where
  signBit (negative : Bool) : Nat :=
    if negative then Magnitude.twoTo 63 else 0

end Number

end Vigil
