import Vigil.Text.Quoted

/-!
# Log entries

What a context reports about its own work: a level, a message, and named fields in the order in
which they were recorded.
-/

namespace Vigil.Log

/-- How severe an entry is. -/
inductive Level where
  | error | warn | info | debug | trace
deriving DecidableEq, Repr

namespace Level

/-- All levels, most severe first. -/
def all : List Level :=
  [error, warn, info, debug, trace]

/-- The name of a level. -/
def name : Level → String
  | error => "ERROR"
  | warn => "WARN"
  | info => "INFO"
  | debug => "DEBUG"
  | trace => "TRACE"

/-- The level of a name. -/
def ofName? (text : String) : Option Level :=
  all.find? fun level => level.name == text

/-- The rank of a level; more severe levels have smaller ranks. -/
def rank : Level → Nat
  | error => 0
  | warn => 1
  | info => 2
  | debug => 3
  | trace => 4

/-- Whether a level is at least as severe as a threshold. -/
def atLeast (threshold level : Level) : Bool :=
  level.rank ≤ threshold.rank

end Level

/-- One report. -/
structure Entry where
  level : Level
  message : String
  fields : List (String × String)
deriving DecidableEq, Repr

namespace Entry

/-- The text of the first field of a name. -/
def field? (entry : Entry) (name : String) : Option String :=
  (entry.fields.find? (·.1 == name)).map Prod.snd

/-- An entry as one line; levels are aligned to the right. -/
def display (entry : Entry) : String :=
  let level := entry.level.name
  let padding := String.ofList (List.replicate (5 - level.length) ' ')
  padding ++ level ++ " " ++ entry.message ++
    String.join (entry.fields.map fun (name, text) => " " ++ name ++ "=" ++ text)

end Entry

end Vigil.Log
