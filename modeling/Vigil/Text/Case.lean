import Vigil.Text.Case.Upper
import Vigil.Text.Case.Lower
import Vigil.Text.Case.Sigma

/-!
# Upper and lower case

Texts change case by Unicode's full mappings: a letter may become several, and a capital sigma
takes its final form where it closes a word. Words of the expression language are compared
without regard to the case of the letters `a` to `z` alone.
-/

namespace Vigil.Text

/-- The text in capitals. -/
def toUpper (text : String) : String :=
  String.ofList (text.toList.flatMap (mapCase upperRuns upperExpansions))

/--
The small letters of some characters, where `before` holds, nearest first, what stands in front
of them.
-/
def lowerAfter (before : List Char) : List Char → List Char
  | [] => []
  | character :: rest =>
    let small :=
      if character = 'Σ' then
        if meetsCased before && !meetsCased rest then ['ς'] else ['σ']
      else
        mapCase lowerRuns lowerExpansions character
    small ++ lowerAfter (character :: before) rest

/-- The text in small letters. -/
def toLower (text : String) : String :=
  String.ofList (lowerAfter [] text.toList)

/-- Whether two texts differ at most in the case of the letters `a` to `z`. -/
def sameIgnoringCase (left right : List Char) : Bool :=
  left.map Char.toLower == right.map Char.toLower

end Vigil.Text
