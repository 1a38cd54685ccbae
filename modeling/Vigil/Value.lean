import Vigil.Number.Decimal
import Vigil.Text.Blank
import Vigil.Text.Case
import Vigil.Text.Quoted

/-!
# Values

What sensors answer and expressions evaluate to. A value has up to three views, which operators
and built-in functions share:

* the *numeric view*: a number is itself, and a text that is a plain decimal, perhaps with a
  minus sign in front and blanks around it, is that decimal; no other value has one;
* the *text view*: `true` or `false`, the shortest decimal of a number, a text itself, and
  nothing for an absent value;
* the *logical view*: a boolean is itself, the texts `true` and `false` in any case of letters
  are booleans, and an absent value is false; no other value has one.
-/

namespace Vigil

/-- A value of the expression language. An absent value stands for "nothing to report". -/
inductive Value where
  | boolean (value : Bool)
  | number (value : Number)
  | text (value : String)
  | absent
deriving DecidableEq

namespace Value

/-- The sorts of values that diagnostics speak of. -/
inductive Kind where
  | boolean
  | number
  | string
  | absent
deriving DecidableEq, Repr

/-- The name of a sort of values. -/
def Kind.name : Kind → String
  | boolean => "boolean"
  | number => "number"
  | string => "string"
  | absent => "absent"

/-- The sort of a value. -/
def kind : Value → Kind
  | boolean _ => .boolean
  | number _ => .number
  | text _ => .string
  | absent => .absent

/-- Whether a value is the boolean `true`, and not merely a text that reads so. -/
def isTrue : Value → Bool
  | boolean value => value
  | _ => false

/-- Whether a value is absent. -/
def isAbsent : Value → Bool
  | absent => true
  | _ => false

/-! ## Views -/

/-- The number that a text stands for: a plain decimal, with or without a minus sign. -/
def numberOf? (characters : List Char) : Option Number :=
  let number? :=
    match characters with
    | '-' :: digits => (Decimal.read? digits).map (Decimal.toNumber true)
    | digits => (Decimal.read? digits).map (Decimal.toNumber false)
  number?.filter Number.isFinite

/-- The numeric view. A decimal too large for a finite number has none. -/
def asNumber? : Value → Option Number
  | number value => some value
  | text value => numberOf? (Text.trim value).toList
  | boolean _ => none
  | absent => none

/-- The logical view. -/
def asLogical? : Value → Option Bool
  | boolean value => some value
  | text value =>
    if Text.sameIgnoringCase value.toList "true".toList then some true
    else if Text.sameIgnoringCase value.toList "false".toList then some false
    else none
  | number _ => none
  | absent => some false

/-- The text of a number: the shortest plain decimal. The sign of zero is not shown. -/
def numberText : Number → String
  | .nan => "NaN"
  | .infinity negative => if negative then "-inf" else "inf"
  | .finite negative magnitude =>
    let digits := (Decimal.shortest .larger magnitude).positional
    String.ofList (if negative && magnitude.steps != 0 then '-' :: digits else digits)

/-- The text view. -/
def asText : Value → String
  | boolean value => if value then "true" else "false"
  | number value => numberText value
  | text value => value
  | absent => ""

/-- The form in which a value is displayed: texts are quoted, and absence is spelled out. -/
def display : Value → String
  | text value => Text.quoted value
  | absent => "<absent>"
  | value => value.asText

/-! ## Comparison -/

/-- Equality, with numbers compared by position; `nan` differs from itself. -/
def equals : Value → Value → Bool
  | number first, number second => first.equals second
  | first, second => first == second

/-- Whether two observations of a sensor are the same; here `nan` is the same as `nan`. -/
def sameAs : Value → Value → Bool
  | number first, number second =>
    first.equals second || (first == .nan && second == .nan)
  | first, second => first.equals second

/--
The language's `=`: an absent value equals only an absent one, two values with a numeric view
are compared as numbers, and all others by their text views.
-/
def looselyEquals : Value → Value → Bool
  | absent, absent => true
  | absent, _ => false
  | _, absent => false
  | first, second =>
    match first.asNumber?, second.asNumber? with
    | some left, some right => left.equals right
    | _, _ => first.asText == second.asText

end Value

end Vigil
