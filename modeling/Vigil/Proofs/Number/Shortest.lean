import Vigil.Number.Decimal
import Vigil.Proofs.Number.Exact

/-!
# Shortest decimals read back

Rounding depends on a quotient alone, and not on how numerator and denominator are chosen.  So the
decimal that writes a magnitude out in full is read as this magnitude, and a shorter one is only
taken if it is read back, too: whatever the search for the fewest digits comes upon,
`Decimal.magnitude?_shortest` holds.
-/

namespace Vigil

/-! ## Quotients that are equal -/

namespace Magnitude

variable {scale : Nat} (positive : 0 < scale) (numerator denominator : Nat)
include positive

theorem roundHalfEven_scaled :
    roundHalfEven (numerator * scale) (denominator * scale) =
      roundHalfEven numerator denominator := by
  have whole : numerator * scale / (denominator * scale) = numerator / denominator :=
    Nat.mul_div_mul_right numerator denominator positive
  have doubled : 2 * (numerator * scale % (denominator * scale)) =
      2 * (numerator % denominator) * scale := by
    rw [Nat.mul_mod_mul_right, Nat.mul_assoc]
  simp only [roundHalfEven, whole, doubled, Nat.mul_lt_mul_right positive]

/-- The nearest number of steps is that of the quotient in any form. -/
theorem nearestSteps_scaled :
    nearestSteps (numerator * scale) (denominator * scale) =
      nearestSteps numerator denominator := by
  have excess : excessBits (numerator * scale) (denominator * scale) =
      excessBits numerator denominator := by
    rw [excessBits, excessBits, Nat.mul_div_mul_right numerator denominator positive]
  simp only [nearestSteps, excess]
  rw [Nat.mul_right_comm, roundHalfEven_scaled positive]

end Magnitude

/-! ## Reading back -/

namespace Decimal

theorem tenTo_pos (power : Nat) : 0 < tenTo power :=
  Nat.pow_pos (by decide)

theorem tenTo_zero : tenTo 0 = 1 :=
  rfl

theorem tenTo_eq (power : Nat) : tenTo power = Nat.pow 5 power * Magnitude.twoTo power :=
  Nat.mul_pow 5 2 power

theorem quotient_ofNat (digits power : Nat) :
    quotient ⟨digits, .ofNat power⟩ = (digits * tenTo power * Magnitude.unit, 1) :=
  rfl

theorem quotient_zero : quotient ⟨0, 0⟩ = (0, 1) := by
  have same := quotient_ofNat 0 0
  rwa [Nat.zero_mul, Nat.zero_mul] at same

/-- Powers of five and two together leave the steps as they are. -/
theorem nearest?_tenTo (magnitude : Magnitude) {power fives : Nat}
    (same : Nat.pow 5 power = fives) :
    Magnitude.nearest? (magnitude.steps * fives * Magnitude.twoTo power) (tenTo power) =
      some magnitude := by
  apply Magnitude.nearest?_eq
  rw [Nat.mul_assoc, ← same, ← tenTo_eq]
  calc Magnitude.nearestSteps (magnitude.steps * tenTo power) (tenTo power)
    _ = Magnitude.nearestSteps (magnitude.steps * tenTo power) (1 * tenTo power) := by
      rw [Nat.one_mul]
    _ = Magnitude.nearestSteps magnitude.steps 1 :=
      Magnitude.nearestSteps_scaled (tenTo_pos power) magnitude.steps 1
    _ = magnitude.steps := Magnitude.nearestSteps_of_short magnitude.short

theorem readsAs_iff {magnitude : Magnitude} {decimal : Decimal} :
    readsAs magnitude decimal = true ↔ decimal.magnitude? = some magnitude :=
  beq_iff_eq

/-- A magnitude that is written out in full is read as it is. -/
theorem readsAs_exact (magnitude : Magnitude) : readsAs magnitude (exact magnitude) = true := by
  -- The power of five is not to be computed, so it gets a name.
  generalize same : Nat.pow 5 1074 = fives
  have whole : quotient ⟨magnitude.steps * fives, -1074⟩ =
      (magnitude.steps * fives * Magnitude.twoTo 1074, tenTo 1074) := rfl
  have reads := nearest?_tenTo magnitude same
  rw [readsAs_iff, exact, same, magnitude?, whole, reads]

theorem readsAs_of_withDigits? {tie : Tie} {magnitude : Magnitude} {count : Nat}
    {decimal : Decimal} (found : withDigits? tie magnitude count = some decimal) :
    readsAs magnitude decimal = true :=
  List.find?_some found

/-- The decimal that is written for a magnitude is read as this magnitude. -/
theorem readsAs_shortest (tie : Tie) (magnitude : Magnitude) :
    readsAs magnitude (shortest tie magnitude) = true := by
  rw [shortest]
  split
  · next nothing =>
    have zeros : Magnitude.nearestSteps 0 1 = magnitude.steps := by
      rw [nothing]
      exact Magnitude.nearestSteps_zero 1
    rw [readsAs_iff, magnitude?, quotient_zero]
    exact Magnitude.nearest?_eq zeros
  · cases found : (List.range' 1 17).findSome? (withDigits? tie magnitude) with
    | none => exact readsAs_exact magnitude
    | some decimal =>
        obtain ⟨count, -, found⟩ := List.exists_of_findSome?_eq_some found
        exact readsAs_of_withDigits? found

theorem toNumber_of_readsAs {magnitude : Magnitude} {decimal : Decimal}
    (reads : readsAs magnitude decimal = true) (negative : Bool) :
    decimal.toNumber negative = .finite negative magnitude := by
  rw [readsAs_iff, magnitude?] at reads
  unfold toNumber Number.rounded
  split
  · next found =>
    rw [found] at reads
    cases reads
    rfl
  · next missing =>
    rw [missing] at reads
    cases reads

end Decimal

end Vigil
