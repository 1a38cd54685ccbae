import Vigil.Settings
import Vigil.Toml.Writer

/-!
# Settings as TOML

The text that `Settings.read` reads as the same settings, with every field spelled out.
-/

namespace Vigil.Settings

/-- An event and what it touches. -/
def writeEvent (event : EventSetting) : Document :=
  .table [("name", .text event.name), ("touches", .list (event.touches.map .text))]

/-- A sensor and its strategy. -/
def writeSensor (sensor : SensorSetting) : Document :=
  .table [("name", .text sensor.name), ("strategy", .text sensor.strategy)]

/-- The entries of the document that settings are read from. -/
def toEntries (settings : Settings) : List (String × Document) :=
  [("logging", .table [("level", .text settings.logLevel)]),
    ("evaluator", .table
      [("parse_cache_capacity", .integer settings.cacheCapacity),
        ("builtins", .boolean settings.builtins)]),
    ("events", .list (settings.events.map writeEvent)),
    ("sensors", .list (settings.sensors.map writeSensor))]

/-- Settings as a TOML text. -/
def toToml (settings : Settings) : String :=
  Toml.write settings.toEntries

end Vigil.Settings
