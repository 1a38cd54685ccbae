import Vigil.Number

/-!
# Numbers at the same position

Comparison looks at the positions of numbers, and only the two zeros share a position.  So a result
of arithmetic can tell two operands at one position apart only if it can tell the zeros apart, and
at its own position it never does.  Divisors that are zero are the exception, and no division is
carried out on them.
-/

namespace Vigil

namespace Magnitude

theorem nearestSteps_zero (denominator : Nat) : nearestSteps 0 denominator = 0 := by
  simp [nearestSteps, roundHalfEven]

theorem steps_zero : zero.steps = 0 :=
  rfl

/-- What comes to the steps of a magnitude once it is rounded is that magnitude. -/
theorem nearest?_eq {numerator denominator : Nat} {magnitude : Magnitude}
    (same : nearestSteps numerator denominator = magnitude.steps) :
    nearest? numerator denominator = some magnitude := by
  have few : nearestSteps numerator denominator < limit := same ▸ magnitude.bounded
  rw [nearest?, dif_pos few]
  exact congrArg some (ext same)

end Magnitude

namespace Number

/-! ## The two zeros -/

theorem signed_eq_zero_iff {negative : Bool} {count : Nat} :
    signed negative count = 0 ↔ count = 0 := by
  cases negative <;> simp [signed]

theorem signed_injective {first second : Bool} {left right : Nat}
    (same : signed first left = signed second right) :
    left = right ∧ (left = 0 ∨ first = second) := by
  cases first <;> cases second <;> simp [signed] at same ⊢ <;> omega

theorem position_zero (negative : Bool) : (zero negative).position = some 0 := by
  cases negative <;> rfl

theorem rounded_eq {numerator denominator : Nat} {magnitude : Magnitude}
    (same : Magnitude.nearestSteps numerator denominator = magnitude.steps) (negative : Bool) :
    rounded negative numerator denominator = finite negative magnitude := by
  unfold rounded
  split
  · next found =>
    rw [Magnitude.nearest?_eq same] at found
    cases found
    rfl
  · next missing =>
    rw [Magnitude.nearest?_eq same] at missing
    cases missing

theorem rounded_zero (negative : Bool) (denominator : Nat) :
    rounded negative 0 denominator = zero negative :=
  rounded_eq (Magnitude.nearestSteps_zero denominator) negative

theorem position_eq_zero_iff {number : Number} :
    number.position = some 0 ↔ ∃ negative, number = zero negative := by
  constructor
  · intro nowhere
    cases number with
    | nan => cases nowhere
    | infinity negative =>
        simp only [position, Option.some.injEq, signed_eq_zero_iff] at nowhere
        exact absurd nowhere (Nat.ne_of_gt Magnitude.limit_pos)
    | finite negative magnitude =>
        simp only [position, Option.some.injEq, signed_eq_zero_iff] at nowhere
        exact ⟨negative, congrArg (finite negative) (Magnitude.ext nowhere)⟩
  · rintro ⟨negative, rfl⟩
    exact position_zero negative

/-- Numbers at one position are equal, unless they are zeros. -/
theorem eq_or_zeros_of_position {first second : Number} (same : first.position = second.position) :
    first = second ∨
      (∃ negative, first = zero negative) ∧ ∃ negative, second = zero negative := by
  by_cases nowhere : first.position = some 0
  · exact .inr ⟨position_eq_zero_iff.mp nowhere, position_eq_zero_iff.mp (same ▸ nowhere)⟩
  · left
    cases first with
    | nan =>
        cases second with
        | nan => rfl
        | infinity | finite => cases same
    | infinity first =>
        cases second with
        | nan => cases same
        | infinity second =>
            have signs := signed_injective (Option.some.inj same)
            rw [signs.2.resolve_left (Nat.ne_of_gt Magnitude.limit_pos)]
        | finite second right =>
            have steps := signed_injective (Option.some.inj same)
            exact absurd steps.1 (Nat.ne_of_gt right.bounded)
    | finite first left =>
        cases second with
        | nan => cases same
        | infinity second =>
            have steps := signed_injective (Option.some.inj same)
            exact absurd steps.1 (Nat.ne_of_lt left.bounded)
        | finite second right =>
            have steps := signed_injective (Option.some.inj same)
            rcases steps.2 with none | signs
            · simp [position, none, signed] at nowhere
            · rw [signs, Magnitude.ext steps.1]

/-! ## Comparison -/

theorem equals_iff {first second : Number} :
    first.equals second = true ↔ first.position = second.position ∧ first ≠ nan := by
  rw [equals, compareBy]
  cases first <;> cases second <;> simp [position]

/-- What is equal or not a number on both sides is at one position. -/
theorem equals_or_nan_iff {first second : Number} :
    (first.equals second || (first == nan && second == nan)) = true ↔
      first.position = second.position := by
  rw [Bool.or_eq_true, equals_iff]
  cases first <;> cases second <;> simp [position]

theorem compareBy_congr (holds : Int → Int → Bool) {first first' second second' : Number}
    (left : first.position = first'.position) (right : second.position = second'.position) :
    compareBy holds first second = compareBy holds first' second' := by
  rw [compareBy, compareBy, left, right]

/-! ## Arithmetic -/

theorem position_neg_congr {first second : Number} (same : first.position = second.position) :
    (-first).position = (-second).position := by
  rcases eq_or_zeros_of_position same with rfl | ⟨⟨negative, rfl⟩, ⟨negative', rfl⟩⟩
  · rfl
  · exact (position_zero !negative).trans (position_zero !negative').symm

section Operations

variable {operation : Number → Number → Number} {first first' second second' : Number}

/-- What does not tell the zeros apart does not tell numbers at one position apart. -/
theorem position_congr_left
    (zeros : ∀ negative right,
      (operation (zero negative) right).position = (operation (zero false) right).position)
    (left : first.position = first'.position) (right : Number) :
    (operation first right).position = (operation first' right).position := by
  rcases eq_or_zeros_of_position left with rfl | ⟨⟨negative, rfl⟩, ⟨negative', rfl⟩⟩
  · rfl
  · rw [zeros negative, zeros negative']

theorem position_congr_right
    (zeros : ∀ negative left,
      (operation left (zero negative)).position = (operation left (zero false)).position)
    (left : Number) (right : second.position = second'.position) :
    (operation left second).position = (operation left second').position :=
  @position_congr_left (fun right left => operation left right) _ _ zeros right left

end Operations

variable {first first' second second' : Number}

theorem signed_zero (negative : Bool) : signed negative Magnitude.zero.steps = 0 :=
  signed_eq_zero_iff.mpr Magnitude.steps_zero

theorem position_add_congr
    (left : first.position = first'.position) (right : second.position = second'.position) :
    (first + second).position = (first' + second').position := by
  refine (position_congr_left ?_ left second).trans (position_congr_right ?_ first' right)
  · rintro negative (_ | other | ⟨other, magnitude⟩)
    · rfl
    · rfl
    · show (Number.add _ _).position = (Number.add _ _).position
      simp only [zero, Number.add, signed_zero, Int.zero_add]
      split
      · exact (position_zero _).trans (position_zero _).symm
      · rfl
  · rintro negative (_ | other | ⟨other, magnitude⟩)
    · rfl
    · rfl
    · show (Number.add _ _).position = (Number.add _ _).position
      simp only [zero, Number.add, signed_zero, Int.add_zero]
      split
      · exact (position_zero _).trans (position_zero _).symm
      · rfl

theorem position_sub_congr
    (left : first.position = first'.position) (right : second.position = second'.position) :
    (first - second).position = (first' - second').position :=
  position_add_congr left (position_neg_congr right)

theorem position_mul_congr
    (left : first.position = first'.position) (right : second.position = second'.position) :
    (first * second).position = (first' * second').position := by
  refine (position_congr_left ?_ left second).trans (position_congr_right ?_ first' right)
  · rintro negative (_ | other | ⟨other, magnitude⟩)
    · rfl
    · rfl
    · show (Number.mul _ _).position = (Number.mul _ _).position
      simp only [zero, Number.mul, Magnitude.steps_zero, Nat.zero_mul]
      rw [rounded_zero, position_zero, rounded_zero, position_zero]
  · rintro negative (_ | other | ⟨other, magnitude⟩)
    · rfl
    · rfl
    · show (Number.mul _ _).position = (Number.mul _ _).position
      simp only [zero, Number.mul, Magnitude.steps_zero, Nat.mul_zero]
      rw [rounded_zero, position_zero, rounded_zero, position_zero]

/-- A zero that is divided is a zero again, or `nan`. -/
theorem position_div_congr (left : first.position = first'.position) (divisor : Number) :
    (first / divisor).position = (first' / divisor).position := by
  refine position_congr_left ?_ left divisor
  rintro negative (_ | other | ⟨other, magnitude⟩)
  · rfl
  · exact (position_zero _).trans (position_zero _).symm
  · show (Number.div _ _).position = (Number.div _ _).position
    simp only [zero, Number.div, Magnitude.steps_zero, Nat.zero_mul]
    split
    · rfl
    · rw [rounded_zero, position_zero, rounded_zero, position_zero]

theorem position_rem_congr (left : first.position = first'.position) (divisor : Number) :
    (first % divisor).position = (first' % divisor).position := by
  refine position_congr_left ?_ left divisor
  rintro negative (_ | other | ⟨other, magnitude⟩)
  · rfl
  · exact (position_zero _).trans (position_zero _).symm
  · show (Number.rem _ _).position = (Number.rem _ _).position
    simp only [zero, Number.rem, Magnitude.steps_zero, Nat.zero_mod]
    split
    · rfl
    · rw [rounded_zero, position_zero, rounded_zero, position_zero]

end Number

end Vigil
