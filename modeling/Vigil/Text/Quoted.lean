import Vigil.Text.Unprintable
import Vigil.Text.Combining

/-!
# Quoted texts in messages

A message shows a text between quotation marks, so that its ends and its odd characters can be
seen: marks and backslashes are escaped, line breaks and tabs have short names, and a character
without a visible form of its own stands as its number.
-/

namespace Vigil.Text

/-- The digits of a number in base sixteen, without leading zeros. -/
def hexadecimal (number : Nat) : List Char :=
  Nat.toDigits 16 number

/-- How a character is shown between the marks `mark`. -/
def escape (mark character : Char) : List Char :=
  match character with
  | '\x00' => ['\\', '0']
  | '\t' => ['\\', 't']
  | '\r' => ['\\', 'r']
  | '\n' => ['\\', 'n']
  | '\\' => ['\\', '\\']
  | _ =>
    if character = mark then
      ['\\', character]
    else if isUnprintable character || isCombining character then
      ['\\', 'u', '\x7b'] ++ hexadecimal character.toNat ++ ['\x7d']
    else
      [character]

/-- A text between double quotation marks. -/
def quoted (text : String) : String :=
  String.ofList ('"' :: text.toList.flatMap (escape '"') ++ ['"'])

/-- A character between single quotation marks. -/
def quotedCharacter (character : Char) : String :=
  String.ofList ('\'' :: escape '\'' character ++ ['\''])

/-- A list of texts, each quoted, between square brackets. -/
def quotedList (texts : List String) : String :=
  "[" ++ String.intercalate ", " (texts.map quoted) ++ "]"

end Vigil.Text
