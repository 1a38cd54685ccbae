import Vigil.Toml.Scalar

/-!
# The statements of a TOML file

A file is a row of statements, one a line: a header opens a table or adds an element to an array
of tables, and an assignment gives a key of the open table a value. Keys may be dotted, and the
values of inline tables are assignments too. Keys have no more than `nestingLimit` parts, and
arrays and inline tables are nested no deeper.
-/

namespace Vigil.Toml

/-- A key with its parts, outermost first. -/
abbrev Path : Type := List String

/-- A value as it is written: inline tables keep their dotted keys. -/
inductive Value where
  | scalar (document : Document)
  | array (items : List Value)
  | inline (assignments : List (Path × Value))

/-- One statement of a file. -/
inductive Statement where
  | table (path : Path)
  | element (path : Path)
  | assign (path : Path) (value : Value)

/-! ## Keys -/

/-- Whether a character may stand in a key without quotation marks. -/
def isKeyPart (character : Char) : Bool :=
  character.isAlphanum || character == '_' || character == '-'

/-- One part of a key. -/
def keyPart : Reader String := fun characters =>
  let bare := characters.takeWhile isKeyPart
  if bare.isEmpty then lineString characters
  else some (String.ofList bare, characters.dropWhile isKeyPart)

/-- The longest key, and the deepest nesting of values. -/
def nestingLimit : Nat := 80

/-- A key, dotted or not, with blanks around its parts. -/
def parts : (fuel : Nat) → Reader Path
  | 0, _ => none
  | fuel + 1, characters => do
    let (part, rest) ← keyPart (skipSpaces characters)
    match skipSpaces rest with
    | '.' :: rest =>
      let (others, rest) ← parts fuel rest
      return (part :: others, rest)
    | rest => return ([part], rest)

/-- A key that is not too long. -/
def path : Reader Path := fun characters => do
  let (parts, rest) ← parts (characters.length + 1) characters
  guard (parts.length ≤ nestingLimit)
  return (parts, rest)

/-- A key and the sign of equality after it. -/
def assignedPath : Reader Path := fun characters => do
  let (parts, rest) ← path characters
  let rest ← exactly '=' rest
  return (parts, skipSpaces rest)

/-! ## Values -/

mutual

/-- A value of any kind, with no more than `room` arrays and tables inside one another. -/
def value : (fuel room : Nat) → Reader Value
  | 0, _, _ => none
  | fuel + 1, room, characters =>
    match characters with
    | '[' :: rest => do
      guard (0 < room)
      let (items, rest) ← arrayItems fuel (room - 1) (← skipBlank rest)
      return (.array items, rest)
    | '\x7b' :: rest => do
      guard (0 < room)
      let (assignments, rest) ← inlineItems fuel (room - 1) (← skipBlank rest)
      return (.inline assignments, rest)
    | '"' :: _ => do
      let (text, rest) ← string characters
      return (.scalar (.text text), rest)
    | '\'' :: _ => do
      let (text, rest) ← string characters
      return (.scalar (.text text), rest)
    | _ => do
      let (document, rest) ← scalar characters
      return (.scalar document, rest)

/-- The items of an array up to its closing bracket; a comma may follow the last one. -/
def arrayItems : (fuel room : Nat) → Reader (List Value)
  | 0, _, _ => none
  | _ + 1, _, ']' :: rest => some ([], rest)
  | fuel + 1, room, characters => do
    let (item, rest) ← value fuel room characters
    match ← skipBlank rest with
    | ',' :: rest =>
      let (items, rest) ← arrayItems fuel room (← skipBlank rest)
      return (item :: items, rest)
    | ']' :: rest => return ([item], rest)
    | _ => none

/-- The assignments of an inline table up to its closing brace. -/
def inlineItems : (fuel room : Nat) → Reader (List (Path × Value))
  | 0, _, _ => none
  | _ + 1, _, '\x7d' :: rest => some ([], rest)
  | fuel + 1, room, characters => do
    let (parts, rest) ← assignedPath characters
    let (item, rest) ← value fuel room rest
    match ← skipBlank rest with
    | ',' :: rest =>
      let (items, rest) ← inlineItems fuel room (← skipBlank rest)
      return ((parts, item) :: items, rest)
    | '\x7d' :: rest => return ([(parts, item)], rest)
    | _ => none

end

/-! ## Files -/

/-- The statement at the front of some characters, which are not blank. -/
def statement : Reader Statement
  | '[' :: '[' :: rest => do
    let (parts, rest) ← path rest
    let rest ← exactly ']' rest
    let rest ← exactly ']' rest
    return (.element parts, rest)
  | '[' :: rest => do
    let (parts, rest) ← path rest
    let rest ← exactly ']' rest
    return (.table parts, rest)
  | characters => do
    let (parts, rest) ← assignedPath characters
    let (assigned, rest) ← value (rest.length + 1) nestingLimit rest
    return (.assign parts assigned, rest)

/-- The statements of a file, at most `fuel` of them. -/
def statementsWithin : (fuel : Nat) → List Char → Option (List Statement)
  | 0, _ => none
  | fuel + 1, characters => do
    match ← skipBlank characters with
    | [] => return []
    | characters =>
      let (first, rest) ← statement characters
      let rest ← endLine rest
      let others ← statementsWithin fuel rest
      return first :: others

/-- The statements of a file. A mark of the byte order may stand in front of them. -/
def statements (text : String) : Option (List Statement) :=
  let characters :=
    match text.toList with
    | '\ufeff' :: rest => rest
    | characters => characters
  statementsWithin (characters.length + 1) characters

end Vigil.Toml
