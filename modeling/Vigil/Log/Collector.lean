import Vigil.Log.Event

/-!
# Log collectors

A collector keeps the newest entries that are severe enough, up to its capacity, until they are
drained.
-/

namespace Vigil.Log

/-- The entries kept, oldest first, and which ones are kept. -/
structure Collector where
  capacity : Nat
  threshold : Level
  entries : List Entry
deriving Repr

namespace Collector

/-- A collector that has kept nothing yet. -/
def new (capacity : Nat) (threshold : Level) : Collector where
  capacity := capacity
  threshold := threshold
  entries := []

/-- Keep an entry that is severe enough; when there is no place left the oldest one goes. -/
def record (collector : Collector) (entry : Entry) : Collector :=
  if !Level.atLeast collector.threshold entry.level || collector.capacity = 0 then
    collector
  else
    let kept :=
      if collector.capacity ≤ collector.entries.length then collector.entries.drop 1
      else collector.entries
    { collector with entries := kept ++ [entry] }

/-- Take notice of an event. -/
def receive (collector : Collector) (event : Event) : Collector :=
  collector.record event.entry

/-- Keep entries one after the other. -/
def recordAll (collector : Collector) (entries : List Entry) : Collector :=
  entries.foldl record collector

/-- Take all entries out. -/
def drain (collector : Collector) : List Entry × Collector :=
  (collector.entries, { collector with entries := [] })

end Collector

end Vigil.Log
