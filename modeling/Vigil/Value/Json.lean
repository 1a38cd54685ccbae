import Vigil.Value

/-!
# Values as JSON text

A number is always written as a floating-point number, with the fewest digits that read back,
and `null` stands for an absent value and for a number that JSON cannot express.
-/

namespace Vigil.Value

/-- How a character stands in a JSON string. -/
def jsonEscape (character : Char) : List Char :=
  match character with
  | '"' => ['\\', '"']
  | '\\' => ['\\', '\\']
  | '\x08' => ['\\', 'b']
  | '\x0c' => ['\\', 'f']
  | '\n' => ['\\', 'n']
  | '\r' => ['\\', 'r']
  | '\t' => ['\\', 't']
  | _ =>
    if character.toNat < 0x20 then
      let digits := Text.hexadecimal character.toNat
      ['\\', 'u'] ++ List.replicate (4 - digits.length) '0' ++ digits
    else
      [character]

/-- A text as a JSON string. -/
def jsonString (text : String) : String :=
  String.ofList ('"' :: text.toList.flatMap jsonEscape ++ ['"'])

/--
A decimal as a JSON number. With the point after the first digit and the exponent between minus
five and fifteen it is written plainly, always with a fraction; otherwise with its exponent.
-/
def jsonDecimal (decimal : Decimal) : List Char :=
  let digits := Decimal.digitsOf decimal.digits
  let exponent := decimal.exponent + digits.length - 1
  if -5 ≤ exponent && exponent ≤ 15 then
    if decimal.exponent < 0 then
      decimal.positional
    else
      decimal.positional ++ ['.', '0']
  else
    let mantissa :=
      match digits with
      | first :: second :: rest => first :: '.' :: second :: rest
      | _ => digits
    let sign := if exponent < 0 then '-' else '+'
    mantissa ++ 'e' :: sign :: Decimal.digitsOf exponent.natAbs

/-- A number as JSON. -/
def jsonNumber : Number → String
  | .nan => "null"
  | .infinity _ => "null"
  | .finite negative magnitude =>
    let digits := jsonDecimal (Decimal.shortest .even magnitude)
    String.ofList (if negative then '-' :: digits else digits)

/-- A value as JSON. -/
def json : Value → String
  | boolean value => if value then "true" else "false"
  | number value => jsonNumber value
  | text value => jsonString value
  | absent => "null"

end Vigil.Value
