import Vigil.Proofs.Number.Position

/-!
# Integers that are exact

Rounding keeps 53 significant bits, so what has no more is left as it is.  Integers between
`-2 ^ 53` and `2 ^ 53` are among it: each is a number of its own, and no two of them are at the same
position.
-/

namespace Vigil

namespace Magnitude

theorem roundHalfEven_mul (steps : Nat) {denominator : Nat} (positive : 0 < denominator) :
    roundHalfEven (steps * denominator) denominator = steps := by
  rw [roundHalfEven, Nat.mul_div_cancel steps positive, Nat.mul_mod_left]
  exact if_pos positive

/-- What has few enough significant bits is not rounded. -/
theorem nearestSteps_of_short {steps : Nat} (short : Short steps) :
    nearestSteps steps 1 = steps := by
  rcases short with ⟨significand, shift, small, rfl⟩
  by_cases nothing : significand = 0
  · rw [nothing, Nat.zero_mul, nearestSteps_zero]
  · have bits : (significand * twoTo shift).log2 < precision + shift := by
      have positive : significand * twoTo shift ≠ 0 :=
        Nat.mul_ne_zero nothing (Nat.ne_of_gt (twoTo_pos shift))
      rw [Nat.log2_lt positive]
      show _ < twoTo (precision + shift)
      rw [twoTo_add]
      exact Nat.mul_lt_mul_of_pos_right small (twoTo_pos shift)
    have excess : excessBits (significand * twoTo shift) 1 ≤ shift := by
      rw [excessBits, Nat.div_one]
      simp only [precision] at bits
      omega
    simp only [nearestSteps]
    generalize excessBits (significand * twoTo shift) 1 = dropped at excess
    obtain ⟨rest, rfl⟩ := Nat.exists_eq_add_of_le' excess
    rw [twoTo_add, ← Nat.mul_assoc, Nat.one_mul, roundHalfEven_mul _ (twoTo_pos dropped)]

/-- Whole numbers of up to 53 bits, and the first one beyond, are magnitudes. -/
theorem short_mul_unit {count : Nat} (small : count ≤ twoTo precision) : Short (count * unit) := by
  rw [unit]
  rcases Nat.lt_or_eq_of_le small with less | rfl
  · exact ⟨count, 1074, less, rfl⟩
  · refine ⟨1, precision + 1074, by decide, ?_⟩
    rw [twoTo_add, Nat.one_mul]

theorem twoTo_lt_twoTo {first second : Nat} (less : first < second) :
    twoTo first < twoTo second :=
  Nat.pow_lt_pow_right (by decide) less

theorem mul_unit_lt_limit {count : Nat} (small : count ≤ twoTo precision) :
    count * unit < limit := by
  rw [unit, limit]
  calc count * twoTo 1074
    _ ≤ twoTo precision * twoTo 1074 := Nat.mul_le_mul_right _ small
    _ = twoTo (precision + 1074) := (twoTo_add _ _).symm
    _ < twoTo 2098 := twoTo_lt_twoTo (by decide)

end Magnitude

namespace Number

theorem signed_natAbs_mul (value : Int) (count : Nat) :
    signed (value < 0) (value.natAbs * count) = value * count := by
  rw [signed, Int.natCast_mul]
  by_cases negative : value < 0
  · have opposite : (value.natAbs : Int) = -value := by omega
    rw [if_pos (decide_eq_true negative), opposite, Int.neg_mul, Int.neg_neg]
  · have same : (value.natAbs : Int) = value := by omega
    rw [if_neg (by simpa using negative), same]

/-- Integers of up to 53 bits, and those at the bound, are numbers. -/
theorem position_ofInt {value : Int} (small : value.natAbs ≤ Magnitude.twoTo Magnitude.precision) :
    (ofInt value).position = some (value * Magnitude.unit) := by
  let magnitude : Magnitude :=
    ⟨value.natAbs * Magnitude.unit, Magnitude.short_mul_unit small,
      Magnitude.mul_unit_lt_limit small⟩
  have exact : Magnitude.nearestSteps (value.natAbs * Magnitude.unit) 1 = magnitude.steps :=
    Magnitude.nearestSteps_of_short magnitude.short
  rw [ofInt, rounded_eq exact, position]
  exact congrArg some (signed_natAbs_mul value Magnitude.unit)

/-- Different integers of up to 53 bits are at different positions. -/
theorem eq_of_position_ofInt {first second : Int}
    (small : first.natAbs ≤ Magnitude.twoTo Magnitude.precision)
    (small' : second.natAbs ≤ Magnitude.twoTo Magnitude.precision)
    (same : (ofInt first).position = (ofInt second).position) : first = second := by
  rw [position_ofInt small, position_ofInt small'] at same
  have positive : (Magnitude.unit : Int) ≠ 0 :=
    Int.natCast_ne_zero.mpr (Nat.ne_of_gt Magnitude.unit_pos)
  exact Int.eq_of_mul_eq_mul_right positive (Option.some.inj same)

end Number

end Vigil
