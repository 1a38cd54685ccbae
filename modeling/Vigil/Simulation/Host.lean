import Vigil.Context.Delivery
import Vigil.Settings
import Vigil.Simulation.Board
import Vigil.Simulation.Scenario

/-!
# The host of a simulation

The program around a simulated context: it keeps a board, answers the sensors from it, and
touches the functions that a change of the board may concern. Controllers are callbacks that
change the board themselves, so notifications nest. Beyond `cascadeLimit` of them inside one
another they are dropped, and this is what makes every cascade end: `notify` is given the `room`
that is left for further notifications, and recurs on it.

What the host does is said for every monad that carries the state of the simulation. A simulation
runs as an `Action`, and a monad that keeps more shows more of the same run.
-/

namespace Vigil.Simulation

/-- A controller whose condition has been compiled. -/
structure Active where
  controller : Controller
  condition : Expression

/-- What the host keeps beside its context: the board, and how deep notifications are nested. -/
structure World where
  board : Board
  depth : Nat

/-- The host of a simulation. Its probes sample sensors that need no argument. -/
abbrev host : Host where
  Sensor := BoardSensor
  Callback := Active
  Probe := BoardSensor
  Data := World

/-- The state of a simulation. -/
abbrev State : Type := Context host

/-- An action of a simulation. -/
abbrev Action : Type → Type := StateM State

/-- How many notifications may be nested inside one another. -/
def cascadeLimit : Nat := 64

variable {m : Type → Type} [Monad m] [MonadStateOf State m]

/-! ## Sensors -/

/-- Answer a sensor from the board as it is. -/
def runSensor : Context.SensorRunner host m := fun (sensor : BoardSensor) arguments => do
  let state ← getThe State
  return sensor.answer state.data.board arguments

/-- Sample a sensor. -/
def runProbe (sensor : host.Probe) : m Value := do
  let state ← getThe State
  return ((BoardSensor.answer sensor state.data.board []).toOption).getD .absent

/-- Change the board. -/
def changeBoard (change : Board → Board) : m Unit :=
  modifyThe State fun state =>
    { state with data := { state.data with board := change state.data.board } }

/-- Change the depth of nested notifications. -/
def changeDepth (change : Nat → Nat) : m Unit :=
  modifyThe State fun state =>
    { state with data := { state.data with depth := change state.data.depth } }

/-! ## Changes of the board -/

/-- How the host lets others know that some functions may have changed. -/
abbrev Notifier (m : Type → Type) : Type := List String → m Unit

/-- The functions that depend on the flags. -/
def flagFunctions : List String :=
  [BoardSensor.flag.name, BoardSensor.flagCount.name]

/-- Set a flag, and let it be known if it was not set. -/
def setFlag (notify : Notifier m) (name : String) : m Unit := do
  let state ← getThe State
  if !state.data.board.hasFlag name then
    changeBoard (·.setFlag name)
    notify flagFunctions

/-- Clear a flag, and let it be known if it was set. -/
def clearFlag (notify : Notifier m) (name : String) : m Unit := do
  let state ← getThe State
  if state.data.board.hasFlag name then
    changeBoard (·.clearFlag name)
    notify flagFunctions

/-- Add to a counter, and let it be known unless nothing was added. -/
def addCounter (notify : Notifier m) (name : String) (amount : Int) : m Unit := do
  changeBoard (·.addCounter name amount)
  if amount ≠ 0 then
    let state ← getThe State
    if state.strategyOf BoardSensor.counterTotal.name = .push then
      notify [BoardSensor.counter.name, BoardSensor.counterTotal.name]
    else
      notify [BoardSensor.counter.name]

/-! ## Controllers -/

/-- Evaluate the condition of a controller, and where it is true change the flag. -/
def applyController (notify : Notifier m) (active : Active) : m (Except EvalError Unit) := do
  match ← Context.evaluate runSensor active.condition with
  | .error error => return .error error
  | .ok value =>
    if value.isTrue then
      match active.controller.mode with
      | .set => setFlag notify active.controller.flag
      | .clear => clearFlag notify active.controller.flag
    return .ok ()

/-- A controller as a callback. -/
def runController (notify : Notifier m) (active : host.Callback) : m Outcome := do
  match ← applyController notify active with
  | .ok () => return .done
  | .error error => return .failed error.message

/-! ## Notification -/

/-- Touch functions one after the other, and note how many callbacks that ran. -/
def touchNoting (callback : host.Callback → m Outcome) : List String → m Unit
  | [] => return
  | name :: rest => do
    let report ← Context.touch callback name
    Context.report host .debug "touched"
      [("function", name), ("invoked", toString report.invoked)]
    touchNoting callback rest

/-- Touch functions, unless there is no room for another notification inside those running. -/
def notify : (room : Nat) → Notifier m
  | 0, names => do
    let state ← getThe State
    changeDepth (· + 1)
    Context.report host .warn "notification cascade too deep, dropping"
      [("depth", toString state.data.depth), ("names", Text.quotedList names)]
    changeDepth (· - 1)
  | room + 1, names => do
    changeDepth (· + 1)
    touchNoting (runController (notify room)) names
    changeDepth (· - 1)

/-- Notification from outside all others. -/
def notifyTop : Notifier m :=
  notify cascadeLimit

/-- A controller run by a touch from outside all notifications. -/
def runControllerTop : host.Callback → m Outcome :=
  runController notifyTop

/-! ## Setting up -/

/-- Why a host cannot be set up. -/
inductive SetupError where
  | registry (error : RegistryError)
  | probe (error : ProbeError)
deriving DecidableEq, Repr

/-- The wording of an error of the set-up. -/
def SetupError.message : SetupError → String
  | registry error => error.message
  | probe error => error.message

/-- Register sensors of the board one after the other. -/
def registerSensors (state : State) : List BoardSensor → Except SetupError State
  | [] => .ok state
  | sensor :: rest =>
    match state.register sensor.name sensor.arity sensor with
    | (.ok (), state) => registerSensors state rest
    | (.error error, _) => .error (.registry error)

/-- Let the sum of the counters be sampled if it is to be polled. -/
def addProbes (state : State) : Except SetupError State :=
  let sensor := BoardSensor.counterTotal
  if state.strategyOf sensor.name = .poll then
    match state.addProbe sensor.name sensor with
    | (.ok (), state) => .ok state
    | (.error error, _) => .error (.probe error)
  else
    .ok state

/-- A context as settings ask for it, without the sensors of the board. -/
def bareContext (settings : Settings) : Except SetupError State :=
  (Context.ofSettings settings (⟨.empty, 0⟩ : World)).mapError SetupError.registry

/-- Give a context the sensors and probes of the board. -/
def equip (state : State) : Except SetupError State := do
  addProbes (← registerSensors state BoardSensor.all)

/-- A context as settings ask for it, with the sensors of an empty board. -/
def setUp (settings : Settings) : Except SetupError State := do
  equip (← bareContext settings)

end Vigil.Simulation
