import Vigil.Number.Decimal

/-!
# Texts in TOML

The four forms of strings, blank space, comments and ends of lines. A part that is read answers
what it stands for and the characters after it; a part that is not well formed answers nothing.
-/

namespace Vigil.Toml

/-- What is read off the front of some characters, and the characters after it. -/
abbrev Reader (α : Type) : Type := List Char → Option (α × List Char)

/-- Whether a character may not stand in a file, except for tabs and the ends of lines. -/
def isControl (character : Char) : Bool :=
  (character.toNat < 0x20 && character != '\t') || character.toNat == 0x7f

/-- Whether a character is blank within a line. -/
def isSpace (character : Char) : Bool :=
  character == ' ' || character == '\t'

/-! ## Blank space and comments -/

/-- The characters after the blanks in front of some characters. -/
def skipSpaces (characters : List Char) : List Char :=
  characters.dropWhile isSpace

/-- The characters from the end of a line on. -/
def skipComment : List Char → Option (List Char)
  | [] => some []
  | '\n' :: rest => some ('\n' :: rest)
  | '\r' :: '\n' :: rest => some ('\n' :: rest)
  | character :: rest => if isControl character then none else skipComment rest

/-- The characters after blanks, a comment, and the end of a line or of the file. -/
def endLine (characters : List Char) : Option (List Char) :=
  match skipSpaces characters with
  | [] => some []
  | '\n' :: rest => some rest
  | '\r' :: '\n' :: rest => some rest
  | '#' :: rest => (skipComment rest).map (List.drop 1)
  | _ => none

/-- The characters after blanks, comments and ends of lines, at most `fuel` of them. -/
def skipLines : (fuel : Nat) → List Char → Option (List Char)
  | 0, _ => none
  | fuel + 1, characters =>
    match skipSpaces characters with
    | '\n' :: rest => skipLines fuel rest
    | '\r' :: '\n' :: rest => skipLines fuel rest
    | '#' :: rest =>
      match skipComment rest with
      | some after => skipLines fuel after
      | none => none
    | rest => some rest

/-- The characters after blanks, comments and ends of lines. -/
def skipBlank (characters : List Char) : Option (List Char) :=
  skipLines (characters.length + 1) characters

/-! ## Escapes -/

/-- The value of a digit in base sixteen. -/
def hexDigit? (character : Char) : Option Nat :=
  if '0' ≤ character ∧ character ≤ '9' then some (character.toNat - '0'.toNat)
  else if 'a' ≤ character ∧ character ≤ 'f' then some (character.toNat - 'a'.toNat + 10)
  else if 'A' ≤ character ∧ character ≤ 'F' then some (character.toNat - 'A'.toNat + 10)
  else none

/-- The character whose number is written with exactly `count` digits in base sixteen. -/
def codePoint (count : Nat) : Reader Char := fun characters => do
  let digits := characters.take count
  guard (digits.length = count)
  let values ← digits.mapM hexDigit?
  let code := values.foldl (fun code digit => 16 * code + digit) 0
  guard code.isValidChar
  return (Char.ofNat code, characters.drop count)

/-- The character that stands after a backslash in an escaped form. -/
def escape : Reader Char
  | 'b' :: rest => some ('\x08', rest)
  | 't' :: rest => some ('\t', rest)
  | 'n' :: rest => some ('\n', rest)
  | 'f' :: rest => some ('\x0c', rest)
  | 'r' :: rest => some ('\r', rest)
  | 'e' :: rest => some ('\x1b', rest)
  | '"' :: rest => some ('"', rest)
  | '\\' :: rest => some ('\\', rest)
  | 'x' :: rest => codePoint 2 rest
  | 'u' :: rest => codePoint 4 rest
  | 'U' :: rest => codePoint 8 rest
  | _ => none

/-! ## Strings on one line -/

/-- The rest of a string with escapes, up to its closing mark. -/
def basicBody : (fuel : Nat) → Reader (List Char)
  | 0, _ => none
  | _ + 1, [] => none
  | _ + 1, '"' :: rest => some ([], rest)
  | fuel + 1, '\\' :: rest => do
    let (character, rest) ← escape rest
    let (body, rest) ← basicBody fuel rest
    return (character :: body, rest)
  | fuel + 1, character :: rest => do
    guard !isControl character
    let (body, rest) ← basicBody fuel rest
    return (character :: body, rest)

/-- The rest of a string without escapes, up to its closing mark. -/
def literalBody : Reader (List Char)
  | [] => none
  | '\'' :: rest => some ([], rest)
  | character :: rest => do
    guard !isControl character
    let (body, rest) ← literalBody rest
    return (character :: body, rest)

/-! ## Strings over several lines -/

/-- The marks that close a string over several lines, and up to two more that belong to it. -/
def closing (mark : Char) (characters : List Char) : Option (List Char × List Char) :=
  let marks := (characters.takeWhile (· == mark)).length
  if marks < 3 then none
  else some (List.replicate (min marks 5 - 3) mark, characters.drop (min marks 5))

/-- The characters after an end of line in front of some characters, if there is one. -/
def afterNewline? : List Char → Option (List Char)
  | '\n' :: rest => some rest
  | '\r' :: '\n' :: rest => some rest
  | _ => none

/-- The characters after blanks and ends of lines. -/
def skipWhite : List Char → List Char
  | '\r' :: '\n' :: rest => skipWhite rest
  | '\n' :: rest => skipWhite rest
  | character :: rest => if isSpace character then skipWhite rest else character :: rest
  | [] => []

/--
The rest of a string over several lines, up to its closing marks. In the form with escapes a
backslash at the end of a line joins it with what follows on the next lines. Ends of lines are
kept as they are written.
-/
def multilineBody (mark : Char) (escapes : Bool) : (fuel : Nat) → Reader (List Char)
  | 0, _ => none
  | _ + 1, [] => none
  | fuel + 1, character :: rest =>
    match closing mark (character :: rest) with
    | some found => some found
    | none =>
      if escapes && character == '\\' then
        match afterNewline? (skipSpaces rest) with
        | some after => multilineBody mark escapes fuel (skipWhite after)
        | none => do
          let (escaped, rest) ← escape rest
          let (body, rest) ← multilineBody mark escapes fuel rest
          return (escaped :: body, rest)
      else do
        guard ((afterNewline? (character :: rest)).isSome || !isControl character)
        let (kept, rest) :=
          match character, rest with
          | '\r', '\n' :: rest => (['\r', '\n'], rest)
          | character, rest => ([character], rest)
        let (body, rest) ← multilineBody mark escapes fuel rest
        return (kept ++ body, rest)

/-- A string over several lines after its opening marks; an end of line right there is dropped. -/
def multiline (mark : Char) (escapes : Bool) : Reader (List Char) := fun characters =>
  multilineBody mark escapes (characters.length + 1)
    ((afterNewline? characters).getD characters)

/-! ## Strings -/

/-- A string on one line. -/
def lineString : Reader String
  | '"' :: rest => do
    let (body, rest) ← basicBody (rest.length + 1) rest
    return (String.ofList body, rest)
  | '\'' :: rest => do
    let (body, rest) ← literalBody rest
    return (String.ofList body, rest)
  | _ => none

/-- A string in any of its forms. -/
def string : Reader String
  | '"' :: '"' :: '"' :: rest => do
    let (body, rest) ← multiline '"' true rest
    return (String.ofList body, rest)
  | '\'' :: '\'' :: '\'' :: rest => do
    let (body, rest) ← multiline '\'' false rest
    return (String.ofList body, rest)
  | characters => lineString characters

end Vigil.Toml
