import Vigil.Value

/-!
# Built-in functions

Functions on texts that every expression may use where they are enabled, and a test for absence.
They look at the text views of their arguments.
-/

namespace Vigil

/-- Why a sensor gives no answer. -/
inductive SensorFailure where
  | missingArgument (position : Nat)
  | reported (message : String)
deriving DecidableEq, Repr

/-- The wording of a sensor's failure. -/
def SensorFailure.message : SensorFailure → String
  | missingArgument position => "missing argument " ++ toString position
  | reported message => message

/-- The built-in functions. -/
inductive Builtin where
  | contains | startsWith | endsWith | length | toLower | toUpper | trim | isAbsent
deriving DecidableEq, Repr

namespace Builtin

/-- All built-in functions, in the order in which they are registered. -/
def all : List Builtin :=
  [contains, startsWith, endsWith, length, toLower, toUpper, trim, isAbsent]

/-- The name of a built-in function in expressions. -/
def name : Builtin → String
  | contains => "strContains"
  | startsWith => "strStartsWith"
  | endsWith => "strEndsWith"
  | length => "strLen"
  | toLower => "strToLower"
  | toUpper => "strToUpper"
  | trim => "strTrim"
  | isAbsent => "isAbsent"

/-- The number of arguments of a built-in function. -/
def arity : Builtin → Nat
  | contains | startsWith | endsWith => 2
  | length | toLower | toUpper | trim | isAbsent => 1

/-- The text view of the argument at an index, counted from zero. -/
def textAt (arguments : List Value) (index : Nat) : Except SensorFailure String :=
  match arguments[index]? with
  | some value => .ok value.asText
  | none => .error (.missingArgument (index + 1))

/-- Whether the characters of one text stand somewhere in those of another. -/
def occursIn (part : List Char) : List Char → Bool
  | [] => part.isEmpty
  | whole@(_ :: rest) => part.isPrefixOf whole || occursIn part rest

/-- A test of the first argument against the second. -/
def test
    (holds : List Char → List Char → Bool)
    (arguments : List Value) : Except SensorFailure Value := do
  let whole ← textAt arguments 0
  let part ← textAt arguments 1
  return .boolean (holds part.toList whole.toList)

/-- What a built-in function answers. Arguments beyond those it needs are not looked at. -/
def apply (builtin : Builtin) (arguments : List Value) : Except SensorFailure Value :=
  match builtin with
  | contains => test occursIn arguments
  | startsWith => test List.isPrefixOf arguments
  | endsWith => test List.isSuffixOf arguments
  | length => return .number (.ofNat (← textAt arguments 0).length)
  | toLower => return .text (Text.toLower (← textAt arguments 0))
  | toUpper => return .text (Text.toUpper (← textAt arguments 0))
  | trim => return .text (Text.trim (← textAt arguments 0))
  | isAbsent => return .boolean (arguments.head?.any Value.isAbsent)

end Builtin

end Vigil
