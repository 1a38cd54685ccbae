import Vigil.Document
import Vigil.Number.Scientific
import Vigil.Toml.Text

/-!
# Numbers, truth values and dates in TOML

A scalar without quotation marks is one word; a date may be followed by a blank and a time. The
word is a truth value, an integer in one of four bases, a real number or a date, or else it is
not well formed. A number that is too large is well formed but out of range.
-/

namespace Vigil.Toml

open Decimal (isDigit)

/-! ## Numbers -/

/-- Digits without the underscores between them; an underscore stands only between two digits. -/
def joinDigits (isDigit : Char → Bool) : List Char → Option (List Char)
  | [] => none
  | [digit] => if isDigit digit then some [digit] else none
  | digit :: '_' :: rest =>
    if isDigit digit then (joinDigits isDigit rest).map (digit :: ·) else none
  | digit :: rest =>
    if isDigit digit then (joinDigits isDigit rest).map (digit :: ·) else none

/-- An integer, which is in range if it fits into 128 bits. -/
def ranged (value : Int) : Document :=
  match Word.double? value with
  | some value => .integer value
  | none => .outOfRange

/-- A whole number in a base. -/
def inBase? (base : Nat) (digits : List Char) : Option Document := do
  let isDigit := fun character => (hexDigit? character).any (· < base)
  let values ← (← joinDigits isDigit digits).mapM hexDigit?
  let value := values.foldl (fun value digit => base * value + digit) 0
  return ranged value

/-- The sign in front of some characters, and what follows it. -/
def splitSign : List Char → Bool × List Char
  | '-' :: rest => (true, rest)
  | '+' :: rest => (false, rest)
  | rest => (false, rest)

/-- Decimal digits that do not start with a superfluous zero. -/
def plainDigits? (digits : List Char) : Option (List Char) := do
  let digits ← joinDigits isDigit digits
  guard (digits.length = 1 || digits.head? != some '0')
  return digits

/-- A whole number in base ten. -/
def integer? (word : List Char) : Option Document := do
  let (negative, digits) := splitSign word
  let value := Decimal.digitsValue 0 (← plainDigits? digits)
  return ranged (if negative then -(value : Int) else value)

/-- Whether some characters are the power of ten of a real number, with its mark. -/
def isPower : List Char → Bool
  | [] => false
  | mark :: rest =>
    (mark == 'e' || mark == 'E') && (joinDigits isDigit (splitSign rest).2).isSome

/-- Whether a word is a real number. -/
def isReal (word : List Char) : Bool :=
  let unsigned := (splitSign word).2
  let isBody (character : Char) := isDigit character || character == '_'
  let whole := unsigned.takeWhile isBody
  let special := unsigned == "inf".toList || unsigned == "nan".toList
  let decimal := (plainDigits? whole).isSome &&
    match unsigned.dropWhile isBody with
    | '.' :: rest =>
      (joinDigits isDigit (rest.takeWhile isBody)).isSome &&
        (rest.dropWhile isBody == [] || isPower (rest.dropWhile isBody))
    | rest => isPower rest
  special || decimal

/-- A real number, which is in range unless its digits stand for something infinite. -/
def real (word : List Char) : Document :=
  match Decimal.readScientific? ((splitSign word).2.filter (· ≠ '_')) with
  | some decimal =>
    if decimal.toNumberInRange false = .infinity false then .outOfRange else .real
  | none => .real

/-! ## Dates -/

/-- A number of exactly `count` digits within bounds. -/
def field (count low high : Nat) : Reader Nat := fun characters => do
  let digits := characters.take count
  guard (digits.length = count && digits.all isDigit)
  let value := Decimal.digitsValue 0 digits
  guard (low ≤ value && value ≤ high)
  return (value, characters.drop count)

/-- The number of days of a month. -/
def daysOf (year month : Nat) : Nat :=
  if month = 2 then
    if year % 4 = 0 && (year % 100 != 0 || year % 400 = 0) then 29 else 28
  else if month = 4 || month = 6 || month = 9 || month = 11 then 30
  else 31

/-- A character that has to stand in front. -/
def exactly (expected : Char) : List Char → Option (List Char)
  | character :: rest => if character = expected then some rest else none
  | [] => none

/-- A day of the calendar. -/
def day (characters : List Char) : Option (List Char) := do
  let (year, rest) ← field 4 0 9999 characters
  let rest ← exactly '-' rest
  let (month, rest) ← field 2 1 12 rest
  let rest ← exactly '-' rest
  let (_, rest) ← field 2 1 (daysOf year month) rest
  return rest

/-- The seconds of a time, with or without a fraction. -/
def seconds (characters : List Char) : Option (List Char) := do
  let (_, rest) ← field 2 0 60 characters
  match rest with
  | '.' :: fraction =>
    guard (fraction.head?.any isDigit)
    return fraction.dropWhile isDigit
  | rest => return rest

/-- A time of the day; the seconds may be left out. -/
def time (characters : List Char) : Option (List Char) := do
  let (_, rest) ← field 2 0 23 characters
  let rest ← exactly ':' rest
  let (_, rest) ← field 2 0 59 rest
  match rest with
  | ':' :: rest => seconds rest
  | rest => return rest

/-- Whether some characters are the distance from universal time, or nothing. -/
def isZone : List Char → Bool
  | [] => true
  | ['Z'] => true
  | ['z'] => true
  | sign :: rest =>
    (sign == '+' || sign == '-') &&
      (do
        let (_, rest) ← field 2 0 23 rest
        let rest ← exactly ':' rest
        let (_, rest) ← field 2 0 59 rest
        return rest) == some []

/-- Whether a word is a date, a time or both. -/
def isDate (word : List Char) : Bool :=
  match day word with
  | some [] => true
  | some (mark :: rest) =>
    (mark == 'T' || mark == 't' || mark == ' ') && (time rest).any isZone
  | none => time word == some []

/-! ## Words -/

/-- What a word stands for. -/
def scalar? (word : List Char) : Option Document :=
  if word = "true".toList then some (.boolean true)
  else if word = "false".toList then some (.boolean false)
  else
    match word with
    | '0' :: 'x' :: digits => inBase? 16 digits
    | '0' :: 'o' :: digits => inBase? 8 digits
    | '0' :: 'b' :: digits => inBase? 2 digits
    | _ =>
      (integer? word).or
        (if isReal word then some (real word) else if isDate word then some .date else none)

/-- Whether a character may stand in a word. -/
def isWordPart (character : Char) : Bool :=
  character.isAlphanum || character == '_' || character == '+' || character == '-' ||
    character == '.' || character == ':'

/-- A scalar without quotation marks. -/
def scalar : Reader Document := fun characters => do
  let word := characters.takeWhile isWordPart
  let rest := characters.dropWhile isWordPart
  let (word, rest) :=
    match day word, rest with
    | some [], ' ' :: digit :: more =>
      if isDigit digit then
        (word ++ ' ' :: (digit :: more).takeWhile isWordPart,
          (digit :: more).dropWhile isWordPart)
      else
        (word, rest)
    | _, _ => (word, rest)
  let document ← scalar? word
  return (document, rest)

end Vigil.Toml
