import Vigil.Proofs.Expr.Agreement
import Vigil.Proofs.Number.Position

/-!
# Values that are the same to a poller

A poller reports a sample only if it is not the same as the last one, so samples that are the same
should make no difference to anybody.  They are equal, or they are numbers at the same position:
zero and negative zero.  All views of such values agree, the numeric one up to its position, and so
does whatever operators make of them.
-/

namespace Vigil.Value

/-! ## An equivalence -/

theorem sameAs_refl (value : Value) : value.sameAs value = true := by
  cases value with
  | number value => exact Number.equals_or_nan_iff.mpr rfl
  | boolean | text | absent => exact BEq.rfl

theorem sameAs_number {left right : Number} (same : left.position = right.position) :
    (number left).sameAs (number right) = true :=
  Number.equals_or_nan_iff.mpr same

/-- Values that are the same are equal, unless they are numbers. -/
theorem eq_or_numbers_of_sameAs {first second : Value} (same : first.sameAs second = true) :
    first = second ∨
      ∃ left right,
        first = .number left ∧ second = .number right ∧ left.position = right.position := by
  cases first with
  | number left =>
      cases second with
      | number right => exact .inr ⟨left, right, rfl, rfl, Number.equals_or_nan_iff.mp same⟩
      | boolean | text | absent => exact .inl (eq_of_beq same)
  | boolean | text | absent => cases second <;> exact .inl (eq_of_beq same)

theorem sameAs_symm {first second : Value} (same : first.sameAs second = true) :
    second.sameAs first = true := by
  rcases eq_or_numbers_of_sameAs same with rfl | ⟨left, right, rfl, rfl, position⟩
  · exact sameAs_refl first
  · exact sameAs_number position.symm

theorem sameAs_trans {first second third : Value} (before : first.sameAs second = true)
    (after : second.sameAs third = true) : first.sameAs third = true := by
  rcases eq_or_numbers_of_sameAs before with rfl | ⟨left, middle, rfl, rfl, position⟩
  · exact after
  · rcases eq_or_numbers_of_sameAs after with rfl | ⟨_, right, ⟨⟩, rfl, position'⟩
    · exact before
    · exact sameAs_number (position.trans position')

theorem sameAs_equivalence :
    Equivalence fun first second : Value => first.sameAs second = true where
  refl := sameAs_refl
  symm := sameAs_symm
  trans := sameAs_trans

/-! ## Views -/

section Views

variable {first second : Value} (same : first.sameAs second = true)
include same

theorem kind_eq_of_sameAs : first.kind = second.kind := by
  rcases eq_or_numbers_of_sameAs same with rfl | ⟨left, right, rfl, rfl, -⟩ <;> rfl

theorem isTrue_eq_of_sameAs : first.isTrue = second.isTrue := by
  rcases eq_or_numbers_of_sameAs same with rfl | ⟨left, right, rfl, rfl, -⟩ <;> rfl

theorem isAbsent_eq_of_sameAs : first.isAbsent = second.isAbsent := by
  rcases eq_or_numbers_of_sameAs same with rfl | ⟨left, right, rfl, rfl, -⟩ <;> rfl

theorem asLogical?_eq_of_sameAs : first.asLogical? = second.asLogical? := by
  rcases eq_or_numbers_of_sameAs same with rfl | ⟨left, right, rfl, rfl, -⟩ <;> rfl

/-- The sign of zero is not shown. -/
theorem asText_eq_of_sameAs : first.asText = second.asText := by
  rcases eq_or_numbers_of_sameAs same with rfl | ⟨left, right, rfl, rfl, position⟩
  · rfl
  · rcases Number.eq_or_zeros_of_position position with rfl | ⟨⟨negative, rfl⟩, ⟨negative', rfl⟩⟩
    · rfl
    · simp [asText, numberText, Number.zero, Magnitude.steps_zero]

theorem asNumber?_of_sameAs :
    (first.asNumber? = none ∧ second.asNumber? = none) ∨
      ∃ left right,
        first.asNumber? = some left ∧ second.asNumber? = some right ∧
          left.position = right.position := by
  rcases eq_or_numbers_of_sameAs same with rfl | ⟨left, right, rfl, rfl, position⟩
  · cases first.asNumber? with
    | none => exact .inl ⟨rfl, rfl⟩
    | some number => exact .inr ⟨number, number, rfl, rfl, rfl⟩
  · exact .inr ⟨left, right, rfl, rfl, position⟩

theorem requireLogical_eq_of_sameAs (operator : Operator) :
    first.requireLogical operator = second.requireLogical operator := by
  rw [requireLogical, requireLogical, asLogical?_eq_of_sameAs same, kind_eq_of_sameAs same]

theorem isNumericOrAbsent_eq_of_sameAs : first.isNumericOrAbsent = second.isNumericOrAbsent := by
  rw [isNumericOrAbsent, isNumericOrAbsent, isAbsent_eq_of_sameAs same]
  rcases asNumber?_of_sameAs same with ⟨none, none'⟩ | ⟨left, right, some, some', -⟩
  · rw [none, none']
  · rw [some, some']
    rfl

end Views

/-! ## Operators -/

/-- Two values are the same to a poller. -/
abbrev Same (first second : Value) : Prop :=
  first.sameAs second = true

theorem applyUnary_same (op : UnaryOp) {first second : Value} (same : first.Same second) :
    EndAlike Same (first.applyUnary op) (second.applyUnary op) := by
  cases op with
  | not =>
      rw [applyUnary, applyUnary, requireLogical_eq_of_sameAs same]
      exact .refl sameAs_refl _
  | neg =>
      rw [applyUnary, applyUnary, isAbsent_eq_of_sameAs same]
      split
      · exact .refl sameAs_refl _
      · rcases asNumber?_of_sameAs same with ⟨none, none'⟩ | ⟨left, right, some, some', position⟩
        · rw [none, none', kind_eq_of_sameAs same]
          exact .error _
        · rw [some, some']
          exact .ok (sameAs_number (Number.position_neg_congr position))

/-- Loose equality in one case distinction. -/
theorem looselyEquals_eq (first second : Value) :
    first.looselyEquals second =
      if first.isAbsent || second.isAbsent then first.isAbsent && second.isAbsent
      else
        match first.asNumber?, second.asNumber? with
        | some left, some right => left.equals right
        | _, _ => first.asText == second.asText := by
  cases absent : first.isAbsent || second.isAbsent with
  | true =>
      cases first with
      | absent => cases second <;> rfl
      | boolean | number | text =>
          cases second with
          | absent => rfl
          | boolean | number | text => cases absent
  | false =>
      rcases Bool.or_eq_false_iff.mp absent with ⟨present, present'⟩
      rw [if_neg Bool.false_ne_true]
      unfold looselyEquals
      split
      · cases present
      · cases present
      · cases present'
      · cases first.asNumber? <;> cases second.asNumber? <;> rfl

section Binary

variable {first first' second second' : Value}
variable (left : first.Same first') (right : second.Same second')
include left right

theorem mismatch_eq_of_sameAs (op : BinaryOp) :
    mismatch op first second = mismatch op first' second' := by
  rw [mismatch, mismatch, kind_eq_of_sameAs left, kind_eq_of_sameAs right]

/-- What is made of two numeric views is related if it is so for numbers at the same positions. -/
theorem views_related {α : Type} {related : α → α → Prop}
    {numbers numbers' : Number → Number → α} {otherwise otherwise' : α}
    (both : ∀ one one' other other', one.position = one'.position →
      other.position = other'.position → related (numbers one other) (numbers' one' other'))
    (neither : related otherwise otherwise') :
    related
      (match first.asNumber?, second.asNumber? with
        | some one, some other => numbers one other
        | _, _ => otherwise)
      (match first'.asNumber?, second'.asNumber? with
        | some one, some other => numbers' one other
        | _, _ => otherwise') := by
  rcases asNumber?_of_sameAs left with ⟨gone, gone'⟩ | ⟨one, one', found, found', position⟩
  · rw [gone, gone']
    exact neither
  · rw [found, found']
    rcases asNumber?_of_sameAs right with ⟨gone, gone'⟩ | ⟨other, other', found, found', position'⟩
    · rw [gone, gone']
      exact neither
    · rw [found, found']
      exact both one one' other other' position position'

theorem looselyEquals_eq_of_sameAs :
    first.looselyEquals second = first'.looselyEquals second' := by
  rw [looselyEquals_eq, looselyEquals_eq, isAbsent_eq_of_sameAs left, isAbsent_eq_of_sameAs right]
  split
  · rfl
  · refine views_related left right (fun one one' other other' position position' => ?_) ?_
    · exact Number.compareBy_congr _ position position'
    · rw [asText_eq_of_sameAs left, asText_eq_of_sameAs right]

theorem applyOrder_same (op : BinaryOp) {holds : Number → Number → Bool}
    (fair : ∀ one one' other other', one.position = one'.position →
      other.position = other'.position → holds one other = holds one' other') :
    EndAlike Same (applyOrder op holds first second) (applyOrder op holds first' second') := by
  rw [applyOrder, applyOrder, isAbsent_eq_of_sameAs left, isAbsent_eq_of_sameAs right]
  split
  · exact .refl sameAs_refl _
  · refine views_related left right (fun one one' other other' position position' => ?_) ?_
    · rw [fair one one' other other' position position']
      exact .refl sameAs_refl _
    · rw [mismatch_eq_of_sameAs left right]
      exact .error _

theorem applyAdd_same : EndAlike Same (applyAdd first second) (applyAdd first' second') := by
  rw [applyAdd, applyAdd]
  refine views_related left right (fun one one' other other' position position' => ?_) ?_
  · exact .ok (sameAs_number (Number.position_add_congr position position'))
  · rw [kind_eq_of_sameAs left, kind_eq_of_sameAs right, mismatch_eq_of_sameAs left right,
      asText_eq_of_sameAs left, asText_eq_of_sameAs right]
    exact .refl sameAs_refl _

theorem applyArithmetic_same (op : BinaryOp) {result : Number → Number → Except EvalError Number}
    (fair : ∀ one one' other other', one.position = one'.position →
      other.position = other'.position →
        EndAlike (fun number number' => number.position = number'.position)
          (result one other) (result one' other')) :
    EndAlike Same (applyArithmetic op result first second)
      (applyArithmetic op result first' second') := by
  rw [applyArithmetic, applyArithmetic, isAbsent_eq_of_sameAs left, isAbsent_eq_of_sameAs right,
    isNumericOrAbsent_eq_of_sameAs left, isNumericOrAbsent_eq_of_sameAs right]
  split
  · exact .refl sameAs_refl _
  · refine views_related left right (fun one one' other other' position position' => ?_) ?_
    · exact (fair one one' other other' position position').map fun _ _ => sameAs_number
    · rw [mismatch_eq_of_sameAs left right]
      exact .error _

end Binary

/-- No divisor is left that could tell the two zeros apart. -/
theorem unlessZero_alike {operation : Number → Number → Number} {one one' other other' : Number}
    (fair : ∀ divisor, (operation one divisor).position = (operation one' divisor).position)
    (position : other.position = other'.position) :
    EndAlike (fun number number' => number.position = number'.position)
      (unlessZero operation one other) (unlessZero operation one' other') := by
  have zeros : other.equals (.zero false) = other'.equals (.zero false) :=
    Number.compareBy_congr _ position rfl
  rw [unlessZero, unlessZero, zeros]
  split
  · exact .error _
  · next away =>
    rcases Number.eq_or_zeros_of_position position with rfl | ⟨-, ⟨negative, rfl⟩⟩
    · exact .ok (fair other)
    · rw [Number.equals_iff, Number.position_zero, Number.position_zero] at away
      exact absurd ⟨rfl, nofun⟩ away

theorem applyBinary_same (op : BinaryOp) {first first' second second' : Value}
    (left : first.Same first') (right : second.Same second') :
    EndAlike Same (applyBinary op first second) (applyBinary op first' second') := by
  cases op with
  | and | or =>
      rw [applyBinary, applyBinary, mismatch_eq_of_sameAs left right]
      exact .error _
  | eq | ne =>
      rw [applyBinary, applyBinary, looselyEquals_eq_of_sameAs left right]
      exact .refl sameAs_refl _
  | lt | le =>
      exact applyOrder_same left right _ fun _ _ _ _ position position' =>
        Number.compareBy_congr _ position position'
  | gt | ge =>
      exact applyOrder_same left right _ fun _ _ _ _ position position' =>
        Number.compareBy_congr _ position' position
  | add => exact applyAdd_same left right
  | sub =>
      exact applyArithmetic_same left right _ fun _ _ _ _ position position' =>
        .ok (Number.position_sub_congr position position')
  | mul =>
      exact applyArithmetic_same left right _ fun _ _ _ _ position position' =>
        .ok (Number.position_mul_congr position position')
  | div =>
      exact applyArithmetic_same left right _ fun _ _ _ _ position position' =>
        unlessZero_alike (Number.position_div_congr position) position'
  | rem =>
      exact applyArithmetic_same left right _ fun _ _ _ _ position position' =>
        unlessZero_alike (Number.position_rem_congr position) position'

/-- No operator tells values that are the same to a poller apart. -/
theorem sameAs_congruence : Congruence Same where
  refl := sameAs_refl
  logical := fun operator _ _ same => requireLogical_eq_of_sameAs same operator
  unary := fun op _ _ same => applyUnary_same op same
  binary := fun op _ _ _ _ left right => applyBinary_same op left right

end Vigil.Value

namespace Vigil

/-! ## Built-in functions -/

/-- Arguments are looked at through their texts alone. -/
theorem Builtin.textAt_eq (arguments : List Value) (index : Nat) :
    Builtin.textAt arguments index =
      match (arguments.map Value.asText)[index]? with
      | some text => .ok text
      | none => .error (.missingArgument (index + 1)) := by
  rw [Builtin.textAt, List.getElem?_map]
  cases arguments[index]? <;> rfl

variable {arguments arguments' : List Value} (same : List.Forall₂ Value.Same arguments arguments')
include same

theorem Builtin.textAt_eq_of_same (index : Nat) :
    Builtin.textAt arguments index = Builtin.textAt arguments' index := by
  have texts : arguments.map Value.asText = arguments'.map Value.asText := by
    induction same with
    | nil => rfl
    | cons head tail induction =>
        rw [List.map_cons, List.map_cons, Value.asText_eq_of_sameAs head, induction]
  rw [Builtin.textAt_eq, Builtin.textAt_eq, texts]

/-- What a built-in function answers shows no difference between values that are the same. -/
theorem Builtin.apply_eq_of_same (builtin : Builtin) :
    builtin.apply arguments = builtin.apply arguments' := by
  cases builtin with
  | contains | startsWith | endsWith =>
      rw [Builtin.apply, Builtin.apply, Builtin.test, Builtin.test,
        Builtin.textAt_eq_of_same same, Builtin.textAt_eq_of_same same]
  | length | toLower | toUpper | trim =>
      rw [Builtin.apply, Builtin.apply, Builtin.textAt_eq_of_same same]
  | isAbsent =>
      cases same with
      | nil => rfl
      | cons head tail =>
          rw [Builtin.apply, Builtin.apply, List.head?_cons, List.head?_cons, Option.any_some,
            Option.any_some, Value.isAbsent_eq_of_sameAs head]

end Vigil
