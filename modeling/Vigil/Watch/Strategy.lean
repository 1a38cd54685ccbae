import Vigil.Table
import Vigil.Text.Quoted

/-!
# Change strategies

How a change of a sensor is noticed: the host program reports it where it makes it, or the
sensor is sampled at every tick. Sensors without an entry of their own are pushed.
-/

namespace Vigil

/-- How a change of a sensor is noticed. -/
inductive Strategy where
  | push
  | poll
deriving DecidableEq, Repr

namespace Strategy

/-- The word for a strategy. -/
def word : Strategy → String
  | push => "push"
  | poll => "poll"

/-- The strategy of a word. -/
def ofWord? (text : String) : Option Strategy :=
  if text = "push" then some push
  else if text = "poll" then some poll
  else none

/-- What is said of a word that stands for no strategy. -/
def unknownWord (text : String) : String :=
  "unknown change strategy " ++ Text.quoted text

end Strategy

/-- The strategies that were set, by sensor. -/
abbrev StrategyTable : Type := Table String Strategy

/-- The strategy of a sensor, set or not. -/
def StrategyTable.strategyOf (table : StrategyTable) (sensor : String) : Strategy :=
  (table.get? sensor).getD .push

end Vigil
