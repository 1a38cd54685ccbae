import Vigil.Settings

/-!
# Scenarios

A scenario is a small world to try conditions in: flags and counters to start with, event
bindings, controllers, and steps that change the world one after the other.
-/

namespace Vigil.Simulation

/-- What a controller does to its flag. -/
inductive Mode where
  | set
  | clear
deriving DecidableEq, Repr

/-- Sets or clears a flag whenever a condition becomes true. -/
structure Controller where
  condition : String
  flag : String
  mode : Mode
deriving DecidableEq, Repr

/-- One change of the world. -/
inductive Step where
  | setFlag (flag : String)
  | clearFlag (flag : String)
  | addCounter (counter : String) (amount : Int)
  | event (name : String)
  | tick
deriving DecidableEq, Repr

/-- A world to start with and the steps that change it. -/
structure Scenario where
  flags : List String
  /-- The counters to start with, by name in ascending order. -/
  counters : List (String × Int)
  events : List EventSetting
  controllers : List Controller
  steps : List Step
deriving DecidableEq, Repr

/-- An amount with its sign. -/
def signedText (amount : Int) : String :=
  if amount < 0 then toString amount else "+" ++ toString amount

/-- How a step is described. -/
def Step.describe : Step → String
  | setFlag flag => "set_flag " ++ flag
  | clearFlag flag => "clear_flag " ++ flag
  | addCounter counter amount => "add_counter " ++ counter ++ " " ++ signedText amount
  | event name => "event " ++ name
  | tick => "tick"

end Vigil.Simulation
