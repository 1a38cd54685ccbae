import Vigil.Value
import Vigil.Watch.Strategy

/-!
# Polling

Sensors whose changes nobody reports are sampled at every tick and compared with what they
answered at the tick before. The first sample of a probe always counts as a change.
-/

namespace Vigil

/-- A sensor that is sampled, the code that does it, and the last sample. -/
structure Probe (Code : Type) where
  name : String
  code : Code
  last? : Option Value

/-- Whether a sample differs from the last one of a probe, or is its first. -/
def Probe.changedBy {Code : Type} (probe : Probe Code) (sample : Value) : Bool :=
  match probe.last? with
  | none => true
  | some last => !last.sameAs sample

/-- The probes, oldest first, and which sensors may be polled. -/
structure Poller (Code : Type) where
  strategies : StrategyTable
  probes : List (Probe Code)

/-- Why a probe cannot be added. -/
inductive ProbeError where
  | pushed (sensor : String)
  | duplicate (sensor : String)
deriving DecidableEq, Repr

/-- The wording of a probe error. -/
def ProbeError.message : ProbeError → String
  | pushed sensor => "sensor " ++ sensor ++ " is configured for push and cannot be polled"
  | duplicate sensor => "probe already registered for " ++ sensor

namespace Poller

variable {Code : Type}

/-- A poller without probes. -/
def new (strategies : StrategyTable) : Poller Code where
  strategies := strategies
  probes := []

/-- The names of the probes, oldest first. -/
def names (poller : Poller Code) : List String :=
  poller.probes.map Probe.name

/-- Add a probe for a sensor that is not set to be pushed and has none yet. -/
def add
    (poller : Poller Code)
    (sensor : String)
    (code : Code) : Except ProbeError (Poller Code) :=
  if poller.strategies.get? sensor = some .push then
    .error (.pushed sensor)
  else if sensor ∈ poller.names then
    .error (.duplicate sensor)
  else
    .ok { poller with probes := poller.probes ++ [⟨sensor, code, none⟩] }

/-- Drop every probe. -/
def clear (poller : Poller Code) : Poller Code :=
  { poller with probes := [] }

/--
Compare one sample with the probe of its name. The result tells whether it is a change; a sample
whose probe is gone is none.
-/
def observe
    (poller : Poller Code)
    (name : String)
    (sample : Value) : Bool × Poller Code :=
  match poller.probes.find? (·.name == name) with
  | none => (false, poller)
  | some probe =>
    if probe.changedBy sample then
      (true,
        { poller with
          probes := poller.probes.map fun probe =>
            if probe.name = name then { probe with last? := some sample } else probe })
    else
      (false, poller)

/-- Compare samples one after the other; the result holds those that are changes. -/
def observeAll (poller : Poller Code) :
    List (String × Value) → List (String × Value) × Poller Code
  | [] => ([], poller)
  | (name, sample) :: rest =>
    let (changed, observed) := poller.observe name sample
    let (changes, final) := observed.observeAll rest
    (if changed then (name, sample) :: changes else changes, final)

/-- What sampling a probe does: the value found, and whether it drops every probe. -/
structure Sample where
  value : Value
  clears : Bool

/--
Sample every probe, and tell which have changed. A context ticks in the same way, but its probes are
code that acts on the context; where this comes to a sample and no more, both ticks are one
(`Hosting.tick_polls`).
-/
def tick (poller : Poller Code) (sample : Code → Sample) : List String × Poller Code :=
  let samples := poller.probes.map fun probe => (probe.name, sample probe.code)
  let sampled := if samples.any (·.2.clears) then poller.clear else poller
  let (changes, observed) :=
    sampled.observeAll (samples.map fun (name, found) => (name, found.value))
  (changes.map Prod.fst, observed)

/-- How a poller is shown for inspection. -/
def inspect (poller : Poller Code) : String :=
  "Poller \x7b probes: " ++ Text.quotedList poller.names ++ ", .. \x7d"

end Poller

end Vigil
