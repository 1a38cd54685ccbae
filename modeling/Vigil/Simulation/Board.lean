import Vigil.Sensor.Builtin
import Vigil.Table

/-!
# Boards

A board holds flags, which are set or not, and counters, which are absent until something is
added to them. Four sensors look at a board: one flag, one counter, the number of flags that are
set, and the sum of all counters.
-/

namespace Vigil.Simulation

/--
Flags and counters. The flags that are set stand in ascending order. Counters are integers of any
size: what becomes of one that grows out of 64 bits is left out.
-/
structure Board where
  flags : List String
  counters : Table String Int

namespace Board

/-- A board without flags and counters. -/
def empty : Board where
  flags := []
  counters := .empty

/-- Put a name into its place among names in ascending order, unless it is there already. -/
def insertName (name : String) : List String → List String
  | [] => [name]
  | first :: rest =>
    if name = first then first :: rest
    else if name < first then name :: first :: rest
    else first :: insertName name rest

/-- Whether a flag is set. -/
def hasFlag (board : Board) (name : String) : Bool :=
  board.flags.contains name

/-- Set a flag. -/
def setFlag (board : Board) (name : String) : Board :=
  { board with flags := insertName name board.flags }

/-- Clear a flag. -/
def clearFlag (board : Board) (name : String) : Board :=
  { board with flags := board.flags.filter (· ≠ name) }

/-- Add to a counter, which starts from zero. -/
def addCounter (board : Board) (name : String) (amount : Int) : Board :=
  { board with counters := board.counters.put name ((board.counters.get? name).getD 0 + amount) }

/-- The sum of all counters, which may have any size as well. -/
def counterTotal (board : Board) : Int :=
  board.counters.entries.foldl (fun total counter => total + counter.2) 0

end Board

/-- The sensors that look at a board. -/
inductive BoardSensor where
  | flag | counter | flagCount | counterTotal
deriving DecidableEq, Repr

namespace BoardSensor

/-- All sensors of a board, in the order in which they are registered. -/
def all : List BoardSensor :=
  [flag, counter, flagCount, counterTotal]

/-- The name of a sensor in expressions. -/
def name : BoardSensor → String
  | flag => "flag"
  | counter => "counter"
  | flagCount => "flagCount"
  | counterTotal => "counterTotal"

/-- The number of arguments of a sensor. -/
def arity : BoardSensor → Nat
  | flag | counter => 1
  | flagCount | counterTotal => 0

/-- The value of an integer. -/
def integer (value : Int) : Value :=
  .number (.ofInt value)

/--
What a sensor answers. The name of a flag or counter is the text view of the argument. A missing
argument is an error here, where other code may panic; evaluation never leaves one out, for it
calls sensors with as many arguments as they are registered with.
-/
def answer
    (sensor : BoardSensor)
    (board : Board)
    (arguments : List Value) : Except SensorFailure Value :=
  match sensor with
  | flag => return .boolean (board.hasFlag (← Builtin.textAt arguments 0))
  | counter =>
    return match board.counters.get? (← Builtin.textAt arguments 0) with
      | some value => integer value
      | none => .absent
  | flagCount => return integer board.flags.length
  | counterTotal => return integer board.counterTotal

end BoardSensor

end Vigil.Simulation
