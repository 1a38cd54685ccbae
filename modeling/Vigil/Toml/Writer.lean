import Vigil.Document
import Vigil.Toml.Text

/-!
# TOML texts of documents

A document of tables is written for people to read. The keys of a table that hold plain values
come first; tables and arrays of tables follow under headers of their own, each after an empty
line. An array of several values takes a line for each. A text is written in the form that needs
the fewest escapes.
-/

namespace Vigil.Toml

/-! ## Strings -/

/-- What decides the form of a string. -/
structure StringTraits where
  hasControl : Bool
  hasBackslash : Bool
  hasNewline : Bool
  doubleMarks : Nat
  singleMarks : Nat

/-- The length of the longest row of a character. -/
def longestRow (mark : Char) (row longest : Nat) : List Char → Nat
  | [] => max row longest
  | character :: rest =>
    if character = mark then longestRow mark (row + 1) longest rest
    else longestRow mark 0 (max row longest) rest

/-- The traits of a text. -/
def StringTraits.of (characters : List Char) : StringTraits where
  hasControl := characters.any fun character => isControl character && character != '\n'
  hasBackslash := characters.contains '\\'
  hasNewline := characters.contains '\n'
  doubleMarks := longestRow '"' 0 0 characters
  singleMarks := longestRow '\'' 0 0 characters

/-- How a character stands in a string with escapes. -/
def escaped (character : Char) : List Char :=
  match character with
  | '\x08' => ['\\', 'b']
  | '\t' => ['\\', 't']
  | '\n' => ['\\', 'n']
  | '\x0c' => ['\\', 'f']
  | '\r' => ['\\', 'r']
  | '"' => ['\\', '"']
  | '\\' => ['\\', '\\']
  | _ =>
    if isControl character then
      let digits := (Nat.toDigits 16 character.toNat).map Char.toUpper
      ['\\', 'u'] ++ List.replicate (4 - digits.length) '0' ++ digits
    else
      [character]

/--
How characters stand in a string with escapes over several lines, after `row` quotation marks. Ends
of lines stand for themselves, and so does a quotation mark unless it is the third in a row.
-/
def escapedLines (row : Nat) : List Char → List Char
  | [] => []
  | '\n' :: rest => '\n' :: escapedLines 0 rest
  | '"' :: rest =>
    if row < 2 then '"' :: escapedLines (row + 1) rest
    else escaped '"' ++ escapedLines 0 rest
  | character :: rest => escaped character ++ escapedLines 0 rest

/-- A text as a string of the form that needs the fewest escapes. -/
def writeString (text : String) : String :=
  let characters := text.toList
  let traits := StringTraits.of characters
  let between (marks : List Char) (body : List Char) : String :=
    let opening := if traits.hasNewline && 1 < marks.length then marks ++ ['\n'] else marks
    String.ofList (opening ++ body ++ marks)
  let three (mark : Char) : List Char := [mark, mark, mark]
  if !traits.hasControl && !traits.hasBackslash && !traits.hasNewline && traits.doubleMarks = 0
  then between ['"'] (characters.flatMap escaped)
  else if !traits.hasControl && !traits.hasNewline && traits.singleMarks = 0 then
    between ['\''] characters
  else if !traits.hasControl && !traits.hasBackslash && traits.doubleMarks ≤ 2 then
    between (three '"') (escapedLines 0 characters)
  else if !traits.hasControl && traits.singleMarks ≤ 2 then
    between (three '\'') characters
  else if traits.hasNewline then
    between (three '"') (escapedLines 0 characters)
  else
    between ['"'] (characters.flatMap escaped)

/-! ## Values -/

/-- A key: as it is, or between quotation marks where it has other characters. -/
def writeKey (key : String) : String :=
  if key ≠ "" ∧ key.toList.all (fun part => part.isAlphanum || part == '_' || part == '-') then key
  else writeString key

mutual

/-- A value in one place. -/
def writeValue : Document → String
  | .null => "\"\""
  | .boolean value => if value then "true" else "false"
  | .integer value => toString value
  | .real => "0.0"
  | .outOfRange => "1e309"
  | .date => "1970-01-01"
  | .text value => writeString value
  | .list [] => "[]"
  | .list [item] => "[" ++ writeValue item ++ "]"
  | .list items => "[\n" ++ writeItems items ++ "]"
  | .table entries => "\x7b " ++ writeInline entries ++ " \x7d"

/-- The items of an array, each on a line of its own. -/
def writeItems : List Document → String
  | [] => ""
  | item :: rest => "    " ++ writeValue item ++ ",\n" ++ writeItems rest

/-- The entries of an inline table. -/
def writeInline : List (String × Document) → String
  | [] => ""
  | [(key, item)] => writeKey key ++ " = " ++ writeValue item
  | (key, item) :: rest => writeKey key ++ " = " ++ writeValue item ++ ", " ++ writeInline rest

end

/-! ## Sections -/

/-- Whether a document is written under headers of its own. -/
def isSection : Document → Bool
  | .table _ => true
  | .list [] => false
  | .list items => items.all fun
    | .table _ => true
    | _ => false
  | _ => false

/-- The lines of the plain values among some entries. -/
def writePlain (entries : List (String × Document)) : String :=
  String.join ((entries.filter fun (_, item) => !isSection item).map fun (key, item) =>
    writeKey key ++ " = " ++ writeValue item ++ "\n")

/-- The sections of one entry of the outermost table. -/
def writeSection (key : String) : Document → List String
  | .table entries => ["[" ++ writeKey key ++ "]\n" ++ writePlain entries]
  | .list items => items.map fun
    | .table entries => "[[" ++ writeKey key ++ "]]\n" ++ writePlain entries
    | _ => ""
  | _ => []

/-- A document whose sections hold plain values. -/
def write (entries : List (String × Document)) : String :=
  let plain := writePlain entries
  let sections := (entries.filter fun (_, item) => isSection item).flatMap fun (key, item) =>
    writeSection key item
  String.intercalate "\n" ((if plain = "" then [] else [plain]) ++ sections)

end Vigil.Toml
