import Vigil.Toml.Statement

/-!
# Documents from TOML

The statements of a file build one document. No key is assigned twice, and a table has one
place where it is opened. A table that was only mentioned on the way to another one may still
be opened, or be extended by dotted keys, after which it may not be opened any more. Inline
tables and arrays are closed.
-/

namespace Vigil.Toml

/-- How a table came about. -/
inductive Origin where
  | opened
  | mentioned
  | dotted
deriving DecidableEq, Repr

/-- A part of a document while it is being built. -/
inductive Node where
  | closed (document : Document)
  | table (origin : Origin) (entries : List (String × Node))
  | elements (tables : List (List (String × Node)))

/-- The entries of a table while it is being built. -/
abbrev Entries : Type := List (String × Node)

/-- The node of a key. -/
def Entries.find? (entries : Entries) (key : String) : Option Node :=
  (List.find? (·.1 == key) entries).map Prod.snd

/-- The entries with another node for a key, or with one more entry. -/
def Entries.put (entries : Entries) (key : String) (node : Node) : Entries :=
  if entries.any (·.1 == key) then
    entries.map fun entry => if entry.1 == key then (key, node) else entry
  else
    entries ++ [(key, node)]

/-! ## Places -/

/--
Change the table at a path. Tables on the way that are missing are mentioned by it, and of an
array of tables the last one is meant.
-/
def changeAt (change : Entries → Option Entries) : Path → Entries → Option Entries
  | [], entries => change entries
  | key :: rest, entries =>
    match Entries.find? entries key with
    | none => do
      return Entries.put entries key (.table .mentioned (← changeAt change rest []))
    | some (.table origin inner) => do
      return Entries.put entries key (.table origin (← changeAt change rest inner))
    | some (.elements tables) => do
      let last ← tables.getLast?
      return Entries.put entries key (.elements (tables.dropLast ++ [← changeAt change rest last]))
    | some (.closed _) => none

/-- Open a table that was at most mentioned. -/
def openTable (key : String) (entries : Entries) : Option Entries :=
  match Entries.find? entries key with
  | none => some (Entries.put entries key (.table .opened []))
  | some (.table .mentioned inner) => some (Entries.put entries key (.table .opened inner))
  | some _ => none

/-- Add an empty table to an array of tables. -/
def addElement (key : String) (entries : Entries) : Option Entries :=
  match Entries.find? entries key with
  | none => some (Entries.put entries key (.elements [[]]))
  | some (.elements tables) => some (Entries.put entries key (.elements (tables ++ [[]])))
  | some _ => none

/--
Give a dotted key a node. The table that gets it counts as made by dotted keys from then on, so
it must not have been opened. An array of tables is only passed through, by way of its last table.
-/
def assignAt (node : Node) : Path → Entries → Option Entries
  | [], _ => none
  | [key], entries =>
    match Entries.find? entries key with
    | none => some (Entries.put entries key node)
    | some _ => none
  | key :: rest, entries =>
    match Entries.find? entries key with
    | none => do
      return Entries.put entries key (.table .dotted (← assignAt node rest []))
    | some (.table .opened _) => none
    | some (.table origin inner) => do
      let origin := if rest.length = 1 then .dotted else origin
      return Entries.put entries key (.table origin (← assignAt node rest inner))
    | some (.elements tables) => do
      guard (1 < rest.length)
      let last ← tables.getLast?
      return Entries.put entries key (.elements (tables.dropLast ++ [← assignAt node rest last]))
    | some (.closed _) => none

/-! ## Documents -/

mutual

/-- The document of a node. -/
def Node.toDocument : Node → Document
  | .closed document => document
  | .table _ entries => .table (documentsOf entries)
  | .elements tables => .list (tablesOf tables)

/-- The documents of the entries of a table. -/
def documentsOf : List (String × Node) → List (String × Document)
  | [] => []
  | (key, node) :: rest => (key, node.toDocument) :: documentsOf rest

/-- The documents of the tables of an array. -/
def tablesOf : List (List (String × Node)) → List Document
  | [] => []
  | entries :: rest => .table (documentsOf entries) :: tablesOf rest

end

mutual

/-- The document of a value, unless an inline table in it assigns a key twice. -/
def Value.toDocument? : Value → Option Document
  | .scalar document => some document
  | .array items => do
    return .list (← documents? items)
  | .inline assignments => do
    return .table (documentsOf (← inlineEntries? [] assignments))

/-- The documents of several values. -/
def documents? : List Value → Option (List Document)
  | [] => some []
  | item :: rest => do
    let first ← item.toDocument?
    let others ← documents? rest
    return first :: others

/-- The entries of an inline table after some that are there already. -/
def inlineEntries? (entries : Entries) : List (Path × Value) → Option Entries
  | [] => some entries
  | (path, item) :: rest => do
    let document ← item.toDocument?
    inlineEntries? (← assignAt (.closed document) path entries) rest

end

/-- Carry out statements, with the table at `place` open. -/
def build (entries : Entries) (place : Path) : List Statement → Option Entries
  | [] => some entries
  | .table path :: rest => do
    build (← changeAt (openTable (path.getLast?.getD "")) path.dropLast entries) path rest
  | .element path :: rest => do
    build (← changeAt (addElement (path.getLast?.getD "")) path.dropLast entries) path rest
  | .assign path value :: rest => do
    let document ← value.toDocument?
    build (← changeAt (assignAt (.closed document) path) place entries) place rest

/--
The conventions of TOML: items beyond the fields of a record are not looked at, and a word may
have an empty table or an empty array as its content.
-/
def conventions : Document.Conventions where
  passesSurplus := true
  isEmpty := fun
    | .table [] => true
    | .list [] => true
    | _ => false

/-- The document that a TOML text describes, if it is well formed. -/
def read (text : String) : Option Document := do
  let entries ← build [] [] (← statements text)
  return .table (documentsOf entries)

end Vigil.Toml
