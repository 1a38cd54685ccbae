import Vigil.Text.Bytes
import Vigil.Text.Quoted

/-!
# Syntax errors

What can be wrong with the text of an expression, where, and how it is reported. Positions count
bytes, so that they are the same for every reader of the text.
-/

namespace Vigil

/-- The ways in which a text fails to be an expression. -/
inductive SyntaxFault where
  | emptyExpression
  | unexpectedCharacter (character : Char)
  | unterminatedString
  | nestedTooDeeply
  | endOfInput
  | valueExpected (found : String)
  | bareIdentifier (name : String)
  | emptyArgument
  | missingArgumentList
  | invalidNumber (text : String)
  | unclosedParenthesis
  | unclosedCall (name : String)
  | unopenedParenthesis
  | trailingToken (value : String)
deriving DecidableEq, Repr

/-- The wording of a fault. -/
def SyntaxFault.message : SyntaxFault → String
  | emptyExpression => "empty expression"
  | unexpectedCharacter character =>
    "unexpected character " ++ Text.quotedCharacter character
  | unterminatedString => "unterminated string literal"
  | nestedTooDeeply => "expression nested too deeply"
  | endOfInput => "expected a value, found end of input"
  | valueExpected found => "expected a value, found " ++ Text.quoted found
  | bareIdentifier name =>
    "bare identifier " ++ Text.quoted name ++
      "; expressions have no variables (did you mean " ++ name ++ "()?)"
  | emptyArgument => "empty argument"
  | missingArgumentList => "expected '(' after function name"
  | invalidNumber text => "invalid number " ++ Text.quoted text
  | unclosedParenthesis => "unbalanced '('"
  | unclosedCall name => "unbalanced '(' in call to " ++ name
  | unopenedParenthesis => "unbalanced ')'"
  | trailingToken value => "unexpected trailing token " ++ Text.quoted value

/-- A fault and the byte at which it was found. -/
structure SyntaxFailure where
  position : Nat
  fault : SyntaxFault
deriving DecidableEq, Repr

/-- A fault together with the text around it. -/
structure SyntaxError where
  failure : SyntaxFailure
  context : String
deriving DecidableEq, Repr

namespace SyntaxError

/-- The number of bytes of the source that an error shows. -/
def contextBytes : Nat := 16

/-- The source from a position on, cut where a further character would not fit. -/
def contextAt (source : String) (position : Nat) : String :=
  match Text.dropBytes position source.toList with
  | [] => "<end of input>"
  | rest => String.ofList (Text.takeBytes contextBytes rest)

/-- The report of a failure on a source. -/
def ofFailure (source : String) (failure : SyntaxFailure) : SyntaxError where
  failure := failure
  context := contextAt source failure.position

/-- The byte at which an error was found. -/
def position (error : SyntaxError) : Nat :=
  error.failure.position

/-- What is wrong, without the place. -/
def detail (error : SyntaxError) : String :=
  error.failure.fault.message

/-- The report of an error in one line. -/
def message (error : SyntaxError) : String :=
  "syntax error at offset " ++ toString error.position ++ ": " ++ error.detail ++
    " (near " ++ Text.quoted error.context ++ ")"

end SyntaxError

end Vigil
