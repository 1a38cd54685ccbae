import Vigil.Expr.Evaluate

/-!
# Operators end in errors of their own

An operator that does not fit its operands says so, and division by zero is an error.  Operators end
in no other way without a value: they know nothing of functions, so no error of an operator speaks of
a missing function, of a wrong number of arguments or of a failing sensor.
-/

namespace Vigil

/-- An error that an operator can end in. -/
def EvalError.OfOperator : EvalError → Prop
  | cannotApply _ _ => True
  | divisionByZero => True
  | _ => False

namespace Value

/-- An outcome that is a value or an error of an operator. -/
def Operated {α : Type} (outcome : Except EvalError α) : Prop :=
  ∀ error, outcome = .error error → error.OfOperator

theorem Operated.ok {α : Type} (value : α) : Operated (.ok value) := by
  intro error impossible
  cases impossible

theorem Operated.error {α : Type} {error : EvalError} (own : error.OfOperator) :
    Operated (.error error : Except EvalError α) := by
  intro other same
  cases same
  exact own

theorem requireLogical_operated (operator : Operator) (value : Value) :
    Operated (requireLogical operator value) := by
  rw [requireLogical]
  split
  · exact .ok _
  · exact .error trivial

theorem applyUnary_operated (op : UnaryOp) (value : Value) : Operated (applyUnary op value) := by
  cases op with
  | not =>
      intro error ended
      refine requireLogical_operated .not value error ?_
      rw [applyUnary] at ended
      cases required : requireLogical .not value with
      | ok truth =>
          rw [required] at ended
          cases ended
      | error other =>
          rw [required] at ended
          cases ended
          rfl
  | neg =>
      rw [applyUnary]
      split
      · exact .ok _
      · split
        · exact .ok _
        · exact .error trivial

theorem applyOrder_operated
    (op : BinaryOp) (holds : Number → Number → Bool) (left right : Value) :
    Operated (applyOrder op holds left right) := by
  rw [applyOrder]
  split
  · exact .ok _
  · split
    · exact .ok _
    · exact .error trivial

theorem applyAdd_operated (left right : Value) : Operated (applyAdd left right) := by
  rw [applyAdd]
  split
  · exact .ok _
  · split
    · exact .error trivial
    · exact .error trivial
    · exact .ok _
    · exact .ok _
    · exact .ok _

theorem applyArithmetic_operated {result : Number → Number → Except EvalError Number}
    (op : BinaryOp) (operated : ∀ first second, Operated (result first second))
    (left right : Value) : Operated (applyArithmetic op result left right) := by
  rw [applyArithmetic]
  split
  · exact .ok _
  · split
    · next first second _ _ =>
      cases ended : result first second with
      | ok number => exact .ok _
      | error error => exact .error (operated first second error ended)
    · exact .error trivial

theorem unlessZero_operated (operation : Number → Number → Number) (first second : Number) :
    Operated (unlessZero operation first second) := by
  rw [unlessZero]
  split
  · exact .error trivial
  · exact .ok _

theorem applyBinary_operated (op : BinaryOp) (left right : Value) :
    Operated (applyBinary op left right) := by
  cases op with
  | and | or => exact .error trivial
  | eq | ne => exact .ok _
  | lt | le | gt | ge => exact applyOrder_operated _ _ left right
  | add => exact applyAdd_operated left right
  | sub | mul => exact applyArithmetic_operated _ (fun _ _ => .ok _) left right
  | div | rem => exact applyArithmetic_operated _ (unlessZero_operated _) left right

end Value

end Vigil
