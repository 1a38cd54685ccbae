import Vigil.Document
import Vigil.Settings

/-!
# Settings from documents

Fields that are missing have their defaults, and fields that settings know nothing of are
passed over.
-/

namespace Vigil.Settings

open Document (Conventions Reader)

/-- The log level. -/
def readLogging (conventions : Conventions) : Reader String := fun document => do
  let fields ← document.asRecord conventions ["level"] false
  fields.optional "level" Document.asText default.logLevel

/-- The capacity of the cache, and whether the built-in functions are there. -/
def readEvaluator (conventions : Conventions) : Reader (Nat × Bool) := fun document => do
  let fields ← document.asRecord conventions ["parse_cache_capacity", "builtins"] false
  let capacity ← fields.optional "parse_cache_capacity" Document.asCount default.cacheCapacity
  let builtins ← fields.optional "builtins" Document.asBoolean default.builtins
  return (capacity, builtins)

/-- An event and what it touches. -/
def readEvent (conventions : Conventions) : Reader EventSetting := fun document => do
  let fields ← document.asRecord conventions ["name", "touches"] false
  let name ← fields.required "name" Document.asText
  let touches ← fields.required "touches" (Document.asList Document.asText)
  return ⟨name, touches⟩

/-- A sensor and its strategy. -/
def readSensor (conventions : Conventions) : Reader SensorSetting := fun document => do
  let fields ← document.asRecord conventions ["name", "strategy"] false
  let name ← fields.required "name" Document.asText
  let strategy ← fields.optional "strategy" Document.asText Strategy.push.word
  return ⟨name, strategy⟩

/-- Settings, not yet validated. -/
def read (conventions : Conventions) : Reader Settings := fun document => do
  let names := ["logging", "evaluator", "events", "sensors"]
  let fields ← document.asRecord conventions names false
  let logLevel ← fields.optional "logging" (readLogging conventions) default.logLevel
  let (cacheCapacity, builtins) ←
    fields.optional "evaluator" (readEvaluator conventions)
      (default.cacheCapacity, default.builtins)
  let events ← fields.optional "events" (Document.asList (readEvent conventions)) []
  let sensors ← fields.optional "sensors" (Document.asList (readSensor conventions)) []
  return { logLevel, cacheCapacity, builtins, events, sensors }

/-- Valid settings. -/
def load (conventions : Conventions) (document : Document) : Except SettingsError Settings :=
  match read conventions document with
  | none => .error .malformed
  | some settings =>
    match settings.validate with
    | .error fault => .error (.invalid fault)
    | .ok () => .ok settings

end Vigil.Settings
