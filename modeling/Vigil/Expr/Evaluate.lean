import Vigil.Expr.Tree
import Vigil.Sensor.Registry

/-!
# Evaluation

The value of an expression where the functions that it calls are given. A call is checked against
the definition of its function before its arguments are evaluated, and each call is answered at
most once. `AND` and `OR` look at their right operand only where the left one leaves the result
open.

The functions are reached through an `Environment`, in any monad: sensors of a host program may
do whatever the monad allows, also to the registry that they are looked up in.
-/

namespace Vigil

/-- Why an expression has no value. -/
inductive EvalError where
  | unknownFunction (name : String)
  | arityMismatch (name : String) (expected actual : Nat)
  | cannotApply (operator : Operator) (operands : List Value.Kind)
  | divisionByZero
  | sensor (name : String) (failure : SensorFailure)
deriving DecidableEq, Repr

/-- The wording of an evaluation error. -/
def EvalError.message : EvalError → String
  | unknownFunction name => "unknown function: " ++ name
  | arityMismatch name expected actual =>
    "function " ++ name ++ " expects " ++ toString expected ++ " argument(s), got " ++
      toString actual
  | cannotApply operator operands =>
    "cannot apply " ++ operator.symbol ++ " to " ++
      String.intercalate " and " (operands.map Value.Kind.name)
  | divisionByZero => "division by zero"
  | sensor name failure => "function " ++ name ++ " failed: " ++ failure.message

/-! ## Operators on values -/

namespace Value

/-- The logical view of an operand, which `operator` needs. -/
def requireLogical (operator : Operator) (value : Value) : Except EvalError Bool :=
  match value.asLogical? with
  | some truth => .ok truth
  | none => .error (.cannotApply operator [value.kind])

/-- The value of a unary operator on its operand. -/
def applyUnary (op : UnaryOp) (operand : Value) : Except EvalError Value :=
  match op with
  | .not => do
    let truth ← requireLogical .not operand
    return .boolean !truth
  | .neg =>
    if operand.isAbsent then
      .ok .absent
    else
      match operand.asNumber? with
      | some value => .ok (.number (-value))
      | none => .error (.cannotApply .sub [operand.kind])

/-- The error of a binary operator that its operands do not fit. -/
def mismatch (op : BinaryOp) (left right : Value) : EvalError :=
  .cannotApply op.operator [left.kind, right.kind]

/-- A comparison by size; nothing compares with an absent value. -/
def applyOrder
    (op : BinaryOp)
    (holds : Number → Number → Bool)
    (left right : Value) : Except EvalError Value :=
  if left.isAbsent || right.isAbsent then
    .ok (.boolean false)
  else
    match left.asNumber?, right.asNumber? with
    | some first, some second => .ok (.boolean (holds first second))
    | _, _ => .error (mismatch op left right)

/--
The sum of two numeric views. Where one is missing, texts are joined with what stands beside
them, except with booleans.
-/
def applyAdd (left right : Value) : Except EvalError Value :=
  match left.asNumber?, right.asNumber? with
  | some first, some second => .ok (.number (first + second))
  | _, _ =>
    match left.kind, right.kind with
    | .boolean, _ => .error (mismatch .add left right)
    | _, .boolean => .error (mismatch .add left right)
    | .string, _ => .ok (.text (left.asText ++ right.asText))
    | _, .string => .ok (.text (left.asText ++ right.asText))
    | _, _ => .ok .absent

/-- Whether a value is absent or has a numeric view. -/
def isNumericOrAbsent (value : Value) : Bool :=
  value.isAbsent || value.asNumber?.isSome

/-- Arithmetic on numeric views; with an absent operand the result is absent. -/
def applyArithmetic
    (op : BinaryOp)
    (result : Number → Number → Except EvalError Number)
    (left right : Value) : Except EvalError Value :=
  if (left.isAbsent || right.isAbsent) && left.isNumericOrAbsent && right.isNumericOrAbsent then
    .ok .absent
  else
    match left.asNumber?, right.asNumber? with
    | some first, some second => (result first second).map Value.number
    | _, _ => .error (mismatch op left right)

/-- An operation that is not defined where the second number is a zero. -/
def unlessZero
    (operation : Number → Number → Number)
    (first second : Number) : Except EvalError Number :=
  if second.equals (Number.zero false) then .error .divisionByZero
  else .ok (operation first second)

/--
The value of a binary operator on its operands. The operators `AND` and `OR` are not among them:
they do not always look at both operands.
-/
def applyBinary (op : BinaryOp) (left right : Value) : Except EvalError Value :=
  match op with
  | .and | .or => .error (mismatch op left right)
  | .eq => .ok (.boolean (left.looselyEquals right))
  | .ne => .ok (.boolean !left.looselyEquals right)
  | .lt => applyOrder op Number.less left right
  | .le => applyOrder op Number.lessOrEqual left right
  | .gt => applyOrder op (fun first second => second.less first) left right
  | .ge => applyOrder op (fun first second => second.lessOrEqual first) left right
  | .add => applyAdd left right
  | .sub => applyArithmetic op (fun first second => .ok (first - second)) left right
  | .mul => applyArithmetic op (fun first second => .ok (first * second)) left right
  | .div => applyArithmetic op (unlessZero (· / ·)) left right
  | .rem => applyArithmetic op (unlessZero (· % ·)) left right

end Value

/-! ## Trees -/

/-- How an expression reaches the functions that it calls. -/
structure Environment (m : Type → Type) (Code : Type) where
  lookup? : String → m (Option (Definition Code))
  call : Code → List Value → m (Except SensorFailure Value)

variable {m : Type → Type} [Monad m] {Code : Type}

/-- The definition of a function that is called with `count` arguments. -/
def Definition.check
    (name : String)
    (count : Nat) : Option (Definition Code) → Except EvalError (Definition Code)
  | none => .error (.unknownFunction name)
  | some definition =>
    if definition.arity = count then .ok definition
    else .error (.arityMismatch name definition.arity count)

/-- The answer of a function to a call with the given arguments. -/
def Environment.answer
    (environment : Environment m Code)
    (definition : Definition Code)
    (arguments : List Value) : m (Except SensorFailure Value) :=
  match definition.body with
  | .builtin builtin => pure (builtin.apply arguments)
  | .host code => environment.call code arguments

namespace Tree

mutual

/-- The value of a tree. -/
def evaluate (environment : Environment m Code) : Tree → ExceptT EvalError m Value
  | literal value => pure value
  | call name arguments _ => do
    let found ← environment.lookup? name
    let definition ← (Definition.check name arguments.length found : Except EvalError _)
    let values ← evaluateAll environment arguments
    match ← environment.answer definition values with
    | .ok value => pure value
    | .error failure => throw (.sensor name failure)
  | unary op operand => do
    let value ← evaluate environment operand
    (value.applyUnary op : Except EvalError Value)
  | binary .and left right => do
    let first ← evaluate environment left
    if ← (first.requireLogical .and : Except EvalError Bool) then
      let second ← evaluate environment right
      let truth ← (second.requireLogical .and : Except EvalError Bool)
      pure (.boolean truth)
    else
      pure (.boolean false)
  | binary .or left right => do
    let first ← evaluate environment left
    if ← (first.requireLogical .or : Except EvalError Bool) then
      pure (.boolean true)
    else
      let second ← evaluate environment right
      let truth ← (second.requireLogical .or : Except EvalError Bool)
      pure (.boolean truth)
  | binary op left right => do
    let first ← evaluate environment left
    let second ← evaluate environment right
    (Value.applyBinary op first second : Except EvalError Value)

/-- The values of several trees, from left to right. -/
def evaluateAll (environment : Environment m Code) : List Tree → ExceptT EvalError m (List Value)
  | [] => pure []
  | tree :: rest => do
    let value ← evaluate environment tree
    let values ← evaluateAll environment rest
    pure (value :: values)

end

/--
Whether every call of a tree fits the definition of its function; otherwise the error of the
first that does not. Nothing is called.
-/
def check (registry : Registry Code) (tree : Tree) : Except EvalError Unit :=
  tree.calls.forM fun call =>
    (Definition.check call.name call.argumentCount (registry.lookup? call.name)).map fun _ => ()

end Tree

end Vigil
