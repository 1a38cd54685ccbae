import Vigil.Expr.Operator
import Vigil.Text.Case

/-!
# Names

A function name starts with a letter or an underscore and goes on with letters, digits,
underscores and points. The words that stand for literals and operators, in any case of
letters, are not names.
-/

namespace Vigil

/-- What a reserved word stands for. -/
inductive Keyword where
  | boolean (value : Bool)
  | operator (written : Operator)
deriving DecidableEq, Repr

/-- The reserved words. -/
def Keyword.words : List (String × Keyword) :=
  [("true", .boolean true), ("false", .boolean false), ("and", .operator .and),
    ("or", .operator .or), ("not", .operator .not)]

/-- The keyword that a word is, whatever the case of its letters. -/
def Keyword.ofWord? (word : List Char) : Option Keyword :=
  (words.find? fun entry => Text.sameIgnoringCase word entry.1.toList).map Prod.snd

namespace Name

/-- Whether a character is a letter from `a` to `z` in either case. -/
def isLetter (character : Char) : Bool :=
  ('a' ≤ character && character ≤ 'z') || ('A' ≤ character && character ≤ 'Z')

/-- Whether a name may start with a character. -/
def isStart (character : Char) : Bool :=
  isLetter character || character == '_'

/-- Whether a name may go on with a character. -/
def isPart (character : Char) : Bool :=
  isLetter character || ('0' ≤ character && character ≤ '9') || character == '_' ||
    character == '.'

/-- Whether a text is a reserved word. -/
def isKeyword (text : String) : Bool :=
  (Keyword.ofWord? text.toList).isSome

/-- Whether a text can be written as the name of a function. -/
def isIdentifier (text : String) : Bool :=
  match text.toList with
  | [] => false
  | first :: rest => isStart first && rest.all isPart && !isKeyword text

theorem isPart_of_isStart {character : Char} (start : isStart character = true) :
    isPart character = true := by
  simp only [isStart, isPart, Bool.or_eq_true] at *
  rcases start with letter | underscore
  · simp [letter]
  · simp [underscore]

end Name

end Vigil
