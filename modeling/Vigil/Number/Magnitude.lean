/-!
# Magnitudes of floating-point numbers

A finite binary64 number is a whole number of steps of `2 ^ -1074`, with at most 53 significant
bits. Counting these steps makes every finite number a natural number: sums and remainders are
exact, order is the order of the naturals, and only the result of an operation is rounded.

`Magnitude.nearest?` rounds a quotient of naturals to the nearest magnitude, a half to the one
with an even significand.
-/

namespace Vigil

namespace Magnitude

/-- The number of significant bits. -/
abbrev precision : Nat := 53

/-- Two to a power. -/
def twoTo (power : Nat) : Nat :=
  Nat.pow 2 power

theorem twoTo_pos (power : Nat) : 0 < twoTo power :=
  Nat.two_pow_pos power

theorem twoTo_add (first second : Nat) : twoTo (first + second) = twoTo first * twoTo second :=
  Nat.pow_add 2 first second

/-- The first number of steps that is too large. -/
def limit : Nat := twoTo 2098

/-- The number of steps in one. -/
def unit : Nat := twoTo 1074

theorem limit_pos : 0 < limit :=
  twoTo_pos 2098

theorem unit_pos : 0 < unit :=
  twoTo_pos 1074

/-- The numbers of steps with at most 53 significant bits. -/
def Short (steps : Nat) : Prop :=
  ∃ significand shift, significand < twoTo precision ∧ steps = significand * twoTo shift

end Magnitude

/-- The absolute value of a finite number, in steps of `2 ^ -1074`. -/
structure Magnitude where
  steps : Nat
  short : Magnitude.Short steps
  bounded : steps < Magnitude.limit
deriving DecidableEq

namespace Magnitude

/-- Nothing. -/
def zero : Magnitude where
  steps := 0
  short := ⟨0, 0, by decide, by decide⟩
  bounded := limit_pos

@[ext]
theorem ext {left right : Magnitude} (equal : left.steps = right.steps) : left = right := by
  cases left
  cases right
  cases equal
  rfl

/-! ## Rounding -/

/-- The whole number nearest to a quotient; a half goes to the even neighbour. -/
def roundHalfEven (numerator denominator : Nat) : Nat :=
  let quotient := numerator / denominator
  let doubled := 2 * (numerator % denominator)
  if doubled < denominator then quotient
  else if denominator < doubled then quotient + 1
  else if quotient % 2 = 0 then quotient
  else quotient + 1

theorem roundHalfEven_le (numerator denominator : Nat) :
    roundHalfEven numerator denominator ≤ numerator / denominator + 1 := by
  unfold roundHalfEven
  dsimp only
  split
  · exact Nat.le_succ _
  · split
    · exact Nat.le_refl _
    · split
      · exact Nat.le_succ _
      · exact Nat.le_refl _

/-- How many low bits a quotient has beyond the 53 that are kept. -/
def excessBits (numerator denominator : Nat) : Nat :=
  (numerator / denominator).log2 - 52

/-- The number of steps nearest to a quotient that has at most 53 significant bits. -/
def nearestSteps (numerator denominator : Nat) : Nat :=
  let shift := excessBits numerator denominator
  roundHalfEven numerator (denominator * twoTo shift) * twoTo shift

theorem div_scaled_lt (numerator denominator : Nat) :
    numerator / (denominator * twoTo (excessBits numerator denominator)) < twoTo precision := by
  rw [← Nat.div_div_eq_div_mul]
  apply Nat.div_lt_of_lt_mul
  rw [← twoTo_add]
  by_cases empty : numerator / denominator = 0
  · rw [empty]
    exact twoTo_pos _
  · apply (Nat.log2_lt empty).mp
    simp only [excessBits, precision]
    omega

theorem short_nearestSteps (numerator denominator : Nat) :
    Short (nearestSteps numerator denominator) := by
  have below := div_scaled_lt numerator denominator
  have near := roundHalfEven_le numerator
    (denominator * twoTo (excessBits numerator denominator))
  unfold nearestSteps
  dsimp only
  generalize excessBits numerator denominator = shift at *
  generalize roundHalfEven numerator (denominator * twoTo shift) = significand at *
  by_cases full : significand < twoTo precision
  · exact ⟨significand, shift, full, rfl⟩
  · have top : significand = twoTo precision := by omega
    refine ⟨twoTo (precision - 1), shift + 1, by decide, ?_⟩
    rw [top, ← twoTo_add, ← twoTo_add]
    congr 1
    simp only [precision]
    omega

/-- The magnitude nearest to a quotient of steps, if it is not too large. -/
def nearest? (numerator denominator : Nat) : Option Magnitude :=
  if bounded : nearestSteps numerator denominator < limit then
    some ⟨nearestSteps numerator denominator, short_nearestSteps numerator denominator, bounded⟩
  else
    none

end Magnitude

end Vigil
