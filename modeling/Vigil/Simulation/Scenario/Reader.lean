import Vigil.Settings.Reader
import Vigil.Simulation.Scenario

/-!
# Scenarios from documents

All fields of a scenario may be missing, but none may be unknown. A step names its action; fields
that the action does not need are passed over. A step that is written as a list has exactly the
fields of its action, whatever the notation admits elsewhere, and all integers in a step have to
fit into words.
-/

namespace Vigil.Simulation

open Document (Conventions Reader)

/-- What a controller does. -/
def readMode (conventions : Conventions) : Reader Mode :=
  Document.asWord conventions [("set", .set), ("clear", .clear)]

/-- A controller, which sets its flag unless something else is asked for. -/
def readController (conventions : Conventions) : Reader Controller := fun document => do
  let fields ← document.asRecord conventions ["condition", "flag", "mode"] true
  let condition ← fields.required "condition" Document.asText
  let flag ← fields.required "flag" Document.asText
  let mode ← fields.optional "mode" (readMode conventions) .set
  return ⟨condition, flag, mode⟩

/-- The action of a step, and the document of its other fields. -/
def readAction : Reader (String × Document)
  | .table entries => do
    let action ← Document.Fields.required ⟨entries⟩ "action" Document.asText
    return (action, .table (entries.filter (·.1 ≠ "action")))
  | .list (.text action :: items) => some (action, .list items)
  | _ => none

/-- A step. -/
def readStep : Reader Step := fun document => do
  guard document.fitsWords
  let (action, rest) ← readAction document
  let record (names : List String) := rest.asRecord .strict names false
  if action = "set_flag" then
    let fields ← record ["flag"]
    return .setFlag (← fields.required "flag" Document.asText)
  else if action = "clear_flag" then
    let fields ← record ["flag"]
    return .clearFlag (← fields.required "flag" Document.asText)
  else if action = "add_counter" then
    let fields ← record ["counter", "amount"]
    let counter ← fields.required "counter" Document.asText
    return .addCounter counter (← fields.required "amount" Document.asInteger)
  else if action = "event" then
    let fields ← record ["name"]
    return .event (← fields.required "name" Document.asText)
  else if action = "tick" then
    let _ ← record []
    return .tick
  else
    none

/-- A scenario. -/
def readScenario (conventions : Conventions) : Reader Scenario := fun document => do
  let names := ["flags", "counters", "events", "controllers", "steps"]
  let fields ← document.asRecord conventions names true
  let flags ← fields.optional "flags" (Document.asList Document.asText) []
  let counters ← fields.optional "counters" (Document.asTable Document.asInteger) []
  let events ← fields.optional "events" (Document.asList (Settings.readEvent conventions)) []
  let controllers ← fields.optional "controllers" (Document.asList (readController conventions)) []
  let steps ← fields.optional "steps" (Document.asList readStep) []
  return {
    flags
    counters := counters.mergeSort fun first second => first.1 ≤ second.1
    events
    controllers
    steps }

end Vigil.Simulation
