import Vigil.Simulation.Host

/-!
# Running scenarios

The flags and counters of a scenario are set, its controllers are activated, and then its steps
are carried out; after each step the flags that are set are noted. A controller whose condition
does not compile is disabled and counted.
-/

namespace Vigil.Simulation

/-- The flags after a step. -/
structure StepOutcome where
  description : String
  flags : List String
deriving DecidableEq, Repr

/-- What a run shows. -/
structure Report where
  initialFlags : List String
  steps : List StepOutcome
  disabledControllers : Nat
deriving DecidableEq, Repr

variable {m : Type → Type} [Monad m] [MonadStateOf State m]

/-- Carry out an action for each of some items. -/
def forEach {α : Type} (action : α → m Unit) : List α → m Unit
  | [] => return
  | item :: rest => do
    action item
    forEach action rest

/-- Compile the condition of a controller and subscribe it; nothing is evaluated yet. -/
def subscribeController (controller : Controller) :
    m (Except ConditionError (SubscriptionId × Active)) := do
  match ← modifyGetThe State (Context.compile · controller.condition) with
  | .error error => return .error error
  | .ok parsed =>
    let active : Active := ⟨controller, parsed.expression⟩
    match ← modifyGetThe State (Context.subscribe · controller.condition active) with
    | .error error => return .error (.invalid error)
    | .ok id => return .ok (id, active)

/-- Activate a controller: subscribe it, and apply it once. Answers whether it is active. -/
def activate (controller : Controller) : m Bool := do
  match ← subscribeController controller with
  | .error error =>
    Context.report host .warn "controller disabled"
      [("condition", controller.condition), ("error", error.message)]
    return false
  | .ok (id, active) =>
    match ← applyController notifyTop active with
    | .ok () => pure ()
    | .error error =>
      Context.report host .warn "initial controller check failed"
        [("subscription", SubscriptionId.label id), ("error", error.message)]
    Context.report host .debug "controller active"
      [("subscription", SubscriptionId.label id), ("flag", controller.flag)]
    return true

/-- Activate controllers in order, and count those that are disabled. -/
def activateAll : List Controller → m Nat
  | [] => return 0
  | controller :: rest => do
    let isActive ← activate controller
    let disabled ← activateAll rest
    return if isActive then disabled else disabled + 1

/-- Carry out a step. -/
def runStep : Step → m Unit
  | .setFlag flag => setFlag notifyTop flag
  | .clearFlag flag => clearFlag notifyTop flag
  | .addCounter counter amount => addCounter notifyTop counter amount
  | .event name => do
    let _ ← Context.fireEvent runControllerTop name
  | .tick => do
    let _ ← Context.tick runProbe runControllerTop

/-- The flags that are set. -/
def flags : m (List String) := do
  let state ← getThe State
  return state.data.board.flags

/-- Carry out steps in order, and note the flags after each. -/
def runSteps : List Step → m (List StepOutcome)
  | [] => return []
  | step :: rest => do
    runStep step
    let outcome : StepOutcome := ⟨step.describe, ← flags⟩
    let outcomes ← runSteps rest
    return outcome :: outcomes

/-- Set the flags and counters of a board. -/
def seed (flags : List String) (counters : List (String × Int)) : m Unit := do
  forEach (setFlag notifyTop) flags
  forEach (fun (counter, amount) => addCounter notifyTop counter amount) counters

/-- Run a scenario in a context that has been set up. -/
def runScenario (scenario : Scenario) : m Report := do
  seed scenario.flags scenario.counters
  let disabled ← activateAll scenario.controllers
  let initialFlags ← flags
  let steps ← runSteps scenario.steps
  modifyThe State Context.unload
  Context.report host .info "simulation finished" [("steps", toString steps.length)]
  return ⟨initialFlags, steps, disabled⟩

/-- A context for a scenario, as settings ask for it. -/
def prepare (scenario : Scenario) (settings : Settings) : Except SetupError State := do
  let bare ← bareContext settings
  equip (scenario.events.foldl (fun state event => state.bindEvent event.name event.touches) bare)

/-- Run a scenario under some settings. The journal of the run stands in the state after it. -/
def run (scenario : Scenario) (settings : Settings) : Except SetupError (Report × State) := do
  let action : Action Report := runScenario scenario
  return action.run (← prepare scenario settings)

end Vigil.Simulation
