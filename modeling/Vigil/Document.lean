import Vigil.Number.Word

/-!
# Documents

Structured data as it is found in configuration and scenario files, whatever notation it was
written in, and how records are taken out of it. A record is a table of its fields, or a list
of their values in order; a closed record admits no other fields. What else a notation admits is
said by its `Conventions`.

A number that is too large to be kept does no harm where nobody looks at it. Readers look at
every field of a table, also at those that they do not ask for.
-/

namespace Vigil

/--
Structured data. Of reals and dates nothing is kept: no record asks for them. A number that no
type of numbers can hold is `outOfRange`.
-/
inductive Document where
  | null
  | boolean (value : Bool)
  | integer (value : Int)
  | real
  | outOfRange
  | date
  | text (value : String)
  | list (items : List Document)
  | table (entries : List (String × Document))

namespace Document

/-! ## Numbers in documents -/

mutual

/-- Whether all parts of a document that have no parts themselves are as `holds` says. -/
def allLeaves (holds : Document → Bool) : Document → Bool
  | list items => allItems holds items
  | table entries => allEntries holds entries
  | leaf => holds leaf

/-- Whether all leaves of some documents are as `holds` says. -/
def allItems (holds : Document → Bool) : List Document → Bool
  | [] => true
  | item :: rest => item.allLeaves holds && allItems holds rest

/-- Whether all leaves of the entries of a table are as `holds` says. -/
def allEntries (holds : Document → Bool) : List (String × Document) → Bool
  | [] => true
  | (_, item) :: rest => item.allLeaves holds && allEntries holds rest

end

/-- Whether no number in a document is out of range. -/
def isSound : Document → Bool :=
  allLeaves fun
    | outOfRange => false
    | _ => true

/-- Whether all integers in a document fit into 64 bits, and no number is out of range. -/
def fitsWords : Document → Bool :=
  allLeaves fun
    | integer value => (Word.signed? value).isSome || (Word.unsigned? value).isSome
    | outOfRange => false
    | _ => true

/-! ## Readers -/

/-- What is read from a document: nothing where the document does not fit. -/
abbrev Reader (α : Type) : Type := Document → Option α

/-- A text. -/
def asText : Reader String
  | text value => some value
  | _ => none

/-- A truth value. -/
def asBoolean : Reader Bool
  | boolean value => some value
  | _ => none

/-- An integer of 64 bits with a sign. -/
def asInteger : Reader Int
  | integer value => Word.signed? value
  | _ => none

/-- An integer of 64 bits without a sign. -/
def asCount : Reader Nat
  | integer value => Word.unsigned? value
  | _ => none

/-- A list of documents of one sort. -/
def asList {α : Type} (item : Reader α) : Reader (List α)
  | list items => items.mapM item
  | _ => none

/-- A table of documents of one sort. -/
def asTable {α : Type} (item : Reader α) : Reader (List (String × α))
  | table entries => entries.mapM fun (key, document) => (item document).map (key, ·)
  | _ => none

/-! ## Records -/

/-- What a notation lays down for records and words. -/
structure Conventions where
  /-- Whether a list may have more items than the record that it stands for has fields. -/
  passesSurplus : Bool
  /-- Whether a document is the empty content that a word may have. -/
  isEmpty : Document → Bool

/-- The strict conventions: a list has an item for each field at most, and only `null` is empty. -/
def Conventions.strict : Conventions where
  passesSurplus := false
  isEmpty := fun
    | null => true
    | _ => false

/-- A word among some. It stands alone, or as the key of its empty content. -/
def asWord {α : Type} (conventions : Conventions) (words : List (String × α)) : Reader α
  | text word => words.lookup word
  | table [(word, content)] => if conventions.isEmpty content then words.lookup word else none
  | _ => none

/-- The fields of a record. -/
structure Fields where
  entries : List (String × Document)

/--
The fields of a record with the given names; no others where it is `closed`. A date is the record
of itself, and none of its fields is ever asked for.
-/
def asRecord (conventions : Conventions) (names : List String) (closed : Bool) : Reader Fields
  | table entries =>
    let others := entries.filter (!names.contains ·.1)
    if closed && !others.isEmpty || !allEntries isSound others then none else some ⟨entries⟩
  | list items =>
    if items.length ≤ names.length || conventions.passesSurplus then some ⟨names.zip items⟩
    else none
  | date => if closed then none else some ⟨[]⟩
  | _ => none

/-- The document of a field. -/
def Fields.get? (fields : Fields) (name : String) : Option Document :=
  (fields.entries.find? (·.1 == name)).map Prod.snd

/-- A field that must be there. -/
def Fields.required {α : Type} (fields : Fields) (name : String) (reader : Reader α) : Option α :=
  (fields.get? name).bind reader

/-- A field that has a default where it is missing. -/
def Fields.optional
    {α : Type}
    (fields : Fields)
    (name : String)
    (reader : Reader α)
    (default : α) : Option α :=
  match fields.get? name with
  | some document => reader document
  | none => some default

end Document

end Vigil
