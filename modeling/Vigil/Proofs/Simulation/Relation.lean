import Vigil.Proofs.Context.Relation
import Vigil.Simulation.Run

/-!
# Two runs of the host

The host looks at its state in few places: at the board, at the functions and subscribers, at event
bindings, probes and strategies.  So two runs whose states are alike there do corresponding things,
whatever else the states hold and whatever is kept of the runs.  A `HostRelation` says what
corresponds, and this module carries it from the board to controllers, steps and whole scenarios.
Notifications are left open, since runs may differ in how deep they are nested.
-/

namespace Vigil.Simulation

/-- Two actions come to the same in states that are alike, and they leave them alike. -/
def Respects (Alike : State → State → Prop) {α : Type} (action other : Action α) : Prop :=
  ∀ state state', Alike state state' →
    (other.run state').1 = (action.run state).1 ∧ Alike (action.run state).2 (other.run state').2

theorem Respects.bind {Alike : State → State → Prop} {α β : Type} {action action' : Action α}
    {next next' : α → Action β} (first : Respects Alike action action')
    (second : ∀ result, Respects Alike (next result) (next' result)) :
    Respects Alike (action >>= next) (action' >>= next') := by
  intro state state' alike
  rcases first state state' alike with ⟨same, between⟩
  have ended := second (action.run state).1 _ _ between
  show ((next' (action'.run state').1).run (action'.run state').2).1 = _ ∧
    Alike _ ((next' (action'.run state').1).run (action'.run state').2).2
  rw [same]
  exact ended

/-- The texts that the host writes to the journal, but for the one of a dropped notification. -/
def hostMessages : List String :=
  ["touched", "controller disabled", "initial controller check failed", "controller active",
    "simulation finished"]

/-- A relation between actions of the host, in whose states boards are the same. -/
structure HostRelation (m n : Type → Type) [Monad m] [Monad n]
    [MonadStateOf State m] [MonadStateOf State n] extends ContextRelation host m n where
  board_eq : ∀ {state state'}, Alike state state' → state'.data.board = state.data.board
  told_of_host : ∀ message ∈ hostMessages, Told message
  holds_evaluate : ∀ expression : Expression,
    Holds (Context.evaluate (m := m) runSensor expression) (Context.evaluate runSensor expression)

namespace HostRelation

variable {m n : Type → Type} [Monad m] [Monad n] [MonadStateOf State m] [MonadStateOf State n]

/-- Two runs in one and the same state, where everything that the host looks at is the same. -/
def ofSame (relation : ActionRelation m n)
    (look : ∀ {α : Type} {next : State → m α} {next' : State → n α},
      (∀ state, relation.Holds (next state) (next' state)) →
        relation.Holds (getThe State >>= next) (getThe State >>= next'))
    (report : ∀ (level : Log.Level) (message : String) (fields : List (String × String)),
      relation.Holds (Context.report host level message fields : m Unit)
        (Context.report host level message fields))
    (evaluate : ∀ expression : Expression,
      relation.Holds (Context.evaluate (m := m) runSensor expression)
        (Context.evaluate runSensor expression)) : HostRelation m n where
  toActionRelation := relation
  Alike := Eq
  registry_eq := fun same => same ▸ rfl
  watcher_eq := fun same => same ▸ rfl
  events_eq := fun same => same ▸ rfl
  holds_look := fun further => look fun state => further state state rfl
  Told := fun _ => True
  told_of_delivery := fun _ _ => trivial
  holds_report := fun _ level fields => report level _ fields
  board_eq := fun same => same ▸ rfl
  told_of_host := fun _ _ => trivial
  holds_evaluate := evaluate

variable (relation : HostRelation m n)

theorem flags : relation.Holds (Simulation.flags (m := m)) Simulation.flags := by
  refine relation.holds_look fun state state' alike => ?_
  rw [relation.board_eq alike]
  exact relation.holds_pure _

theorem touchNoting {callback : host.Callback → m Outcome} {callback' : host.Callback → n Outcome}
    (serves : relation.Serves callback callback') (names : List String) :
    relation.Holds (Simulation.touchNoting callback names)
      (Simulation.touchNoting callback' names) := by
  induction names with
  | nil => exact relation.holds_pure _
  | cons name rest induction =>
      have told := relation.told_of_host "touched" (by decide)
      refine relation.holds_bind (relation.touch serves name) fun report => ?_
      exact relation.holds_bind (relation.holds_report told _ _) fun _ => induction

theorem runProbe (sensor : host.Probe) :
    relation.Holds (Simulation.runProbe (m := m) sensor) (Simulation.runProbe sensor) := by
  refine relation.holds_look fun state state' alike => ?_
  rw [relation.board_eq alike]
  exact relation.holds_pure _

/-! ## Controllers -/

section Notified

variable {notify : Notifier m} {notify' : Notifier n}

/-- A controller corresponds if the one change that it makes does. -/
theorem applyController {active : Active}
    (set : active.controller.mode = .set →
      relation.Holds (Simulation.setFlag notify active.controller.flag)
        (Simulation.setFlag notify' active.controller.flag))
    (clear : active.controller.mode = .clear →
      relation.Holds (Simulation.clearFlag notify active.controller.flag)
        (Simulation.clearFlag notify' active.controller.flag)) :
    relation.Holds (Simulation.applyController notify active)
      (Simulation.applyController notify' active) := by
  refine relation.holds_bind (relation.holds_evaluate active.condition) fun outcome => ?_
  cases outcome with
  | error error => exact relation.holds_pure _
  | ok value =>
      dsimp only
      split
      · cases mode : active.controller.mode with
        | set => exact relation.holds_bind (set mode) fun _ => relation.holds_pure _
        | clear => exact relation.holds_bind (clear mode) fun _ => relation.holds_pure _
      · exact relation.holds_pure _

theorem runController {active : host.Callback}
    (applied : relation.Holds (Simulation.applyController notify active)
      (Simulation.applyController notify' active)) :
    relation.Holds (Simulation.runController notify active)
      (Simulation.runController notify' active) := by
  refine relation.holds_bind applied fun outcome => ?_
  cases outcome <;> exact relation.holds_pure _

variable (changed : ∀ change : Board → Board,
  (∀ board, (change board).counters = board.counters) →
    relation.Holds (changeBoard change : m Unit) (changeBoard change))
variable (same : ∀ names, relation.Holds (notify names) (notify' names))
include changed same

theorem setFlag (name : String) :
    relation.Holds (Simulation.setFlag notify name) (Simulation.setFlag notify' name) := by
  refine relation.holds_look fun state state' alike => ?_
  rw [relation.board_eq alike]
  split
  · exact relation.holds_bind (changed _ fun _ => rfl) fun _ => same flagFunctions
  · exact relation.holds_pure _

theorem clearFlag (name : String) :
    relation.Holds (Simulation.clearFlag notify name) (Simulation.clearFlag notify' name) := by
  refine relation.holds_look fun state state' alike => ?_
  rw [relation.board_eq alike]
  split
  · exact relation.holds_bind (changed _ fun _ => rfl) fun _ => same flagFunctions
  · exact relation.holds_pure _

theorem applyAny (active : Active) :
    relation.Holds (Simulation.applyController notify active)
      (Simulation.applyController notify' active) :=
  relation.applyController (fun _ => relation.setFlag changed same _)
    fun _ => relation.clearFlag changed same _

theorem serves : relation.Serves (Simulation.runController notify)
    (Simulation.runController notify') :=
  fun _ _ _ _ subscription _ =>
    relation.runController (relation.applyAny changed same subscription.callback)

omit changed in
/-- Counters correspond where it is the same who learns of their sum. -/
theorem addCounter
    (raised : ∀ (name : String) (amount : Int),
      relation.Holds (changeBoard (·.addCounter name amount) : m Unit)
        (changeBoard (·.addCounter name amount)))
    (strategy : ∀ {state state'}, relation.Alike state state' →
      state'.strategyOf BoardSensor.counterTotal.name =
        state.strategyOf BoardSensor.counterTotal.name)
    (name : String) (amount : Int) :
    relation.Holds (Simulation.addCounter notify name amount)
      (Simulation.addCounter notify' name amount) := by
  refine relation.holds_bind (raised name amount) fun _ => ?_
  split
  · refine relation.holds_look fun state state' alike => ?_
    rw [strategy alike]
    split
    · exact same _
    · exact same _
  · exact relation.holds_pure _

end Notified

/-! ## Scenarios -/

theorem forEach {Item : Type} {action : Item → m Unit} {action' : Item → n Unit}
    {items : List Item} (same : ∀ item ∈ items, relation.Holds (action item) (action' item)) :
    relation.Holds (Simulation.forEach action items) (Simulation.forEach action' items) := by
  induction items with
  | nil => exact relation.holds_pure _
  | cons item rest induction =>
      refine relation.holds_bind (same item List.mem_cons_self) fun _ => ?_
      exact induction fun other member => same other (List.mem_cons_of_mem item member)

section FromOutside

variable (changed : ∀ change : Board → Board,
  (∀ board, (change board).counters = board.counters) →
    relation.Holds (changeBoard change : m Unit) (changeBoard change))
variable (top : ∀ names, relation.Holds (notifyTop names : m Unit) (notifyTop names))
include changed top

theorem activate {controller : Controller}
    (subscribed : relation.Holds (subscribeController (m := m) controller)
      (subscribeController controller)) :
    relation.Holds (Simulation.activate (m := m) controller) (Simulation.activate controller) := by
  have told := fun message member => relation.holds_report (relation.told_of_host message member)
  refine relation.holds_bind subscribed fun outcome => ?_
  cases outcome with
  | error error =>
      have disabled := told "controller disabled" (by decide)
      exact relation.holds_bind (disabled _ _) fun _ => relation.holds_pure _
  | ok subscription =>
      have active := told "controller active" (by decide)
      refine relation.holds_bind (relation.applyAny changed top subscription.2) fun outcome => ?_
      cases outcome with
      | ok => exact relation.holds_bind (active _ _) fun _ => relation.holds_pure _
      | error error =>
          have failed := told "initial controller check failed" (by decide)
          refine relation.holds_bind (failed _ _) fun _ => ?_
          exact relation.holds_bind (active _ _) fun _ => relation.holds_pure _

theorem activateAll {controllers : List Controller}
    (subscribed : ∀ controller ∈ controllers,
      relation.Holds (subscribeController (m := m) controller) (subscribeController controller)) :
    relation.Holds (Simulation.activateAll (m := m) controllers)
      (Simulation.activateAll controllers) := by
  induction controllers with
  | nil => exact relation.holds_pure _
  | cons controller rest induction =>
      have first := relation.activate changed top (subscribed controller List.mem_cons_self)
      have others := induction fun other member =>
        subscribed other (List.mem_cons_of_mem controller member)
      refine relation.holds_bind first fun isActive => ?_
      exact relation.holds_bind others fun disabled => relation.holds_pure _

variable (raised : ∀ (name : String) (amount : Int),
  relation.Holds (changeBoard (·.addCounter name amount) : m Unit)
    (changeBoard (·.addCounter name amount)))
variable (strategy : ∀ {state state'}, relation.Alike state state' →
  state'.strategyOf BoardSensor.counterTotal.name =
    state.strategyOf BoardSensor.counterTotal.name)
include raised strategy

theorem seed (flags : List String) (counters : List (String × Int)) :
    relation.Holds (Simulation.seed (m := m) flags counters) (Simulation.seed flags counters) := by
  have setting := relation.forEach fun (flag : String) (_ : flag ∈ flags) =>
    relation.setFlag changed top flag
  refine relation.holds_bind setting fun _ => ?_
  exact relation.forEach fun counter _ => relation.addCounter top raised strategy _ _

variable (probes : ∀ {state state'}, relation.Alike state state' →
  state'.poller.probes = state.poller.probes)
variable (observed : ∀ samples : List (String × Value),
  relation.Holds (modifyGetThe State (·.observeAll samples) : m (List String))
    (modifyGetThe State (·.observeAll samples)))
include probes observed

theorem runStep (step : Step) :
    relation.Holds (Simulation.runStep (m := m) step) (Simulation.runStep step) := by
  have serves := relation.serves changed top
  cases step with
  | setFlag flag => exact relation.setFlag changed top flag
  | clearFlag flag => exact relation.clearFlag changed top flag
  | addCounter counter amount => exact relation.addCounter top raised strategy counter amount
  | event name =>
      exact relation.holds_bind (relation.fireEvent serves name) fun _ => relation.holds_pure _
  | tick =>
      have ticked := relation.tick relation.runProbe probes observed serves
      exact relation.holds_bind ticked fun _ => relation.holds_pure _

theorem runSteps (steps : List Step) :
    relation.Holds (Simulation.runSteps (m := m) steps) (Simulation.runSteps steps) := by
  induction steps with
  | nil => exact relation.holds_pure _
  | cons step rest induction =>
      have first := relation.runStep changed top raised strategy probes observed step
      refine relation.holds_bind first fun _ => ?_
      refine relation.holds_bind relation.flags fun flags => ?_
      exact relation.holds_bind induction fun outcomes => relation.holds_pure _

/-- A whole run corresponds if its notifications, its subscriptions and its unloading do. -/
theorem runScenario {scenario : Scenario}
    (subscribed : ∀ controller ∈ scenario.controllers,
      relation.Holds (subscribeController (m := m) controller) (subscribeController controller))
    (unloaded : relation.Holds (modifyThe State Context.unload : m Unit)
      (modifyThe State Context.unload)) :
    relation.Holds (Simulation.runScenario (m := m) scenario)
      (Simulation.runScenario scenario) := by
  have told := relation.holds_report (relation.told_of_host "simulation finished" (by decide))
  refine relation.holds_bind (relation.seed changed top raised strategy _ _) fun _ => ?_
  refine relation.holds_bind (relation.activateAll changed top subscribed) fun disabled => ?_
  refine relation.holds_bind relation.flags fun flags => ?_
  refine relation.holds_bind
    (relation.runSteps changed top raised strategy probes observed _) fun steps => ?_
  refine relation.holds_bind unloaded fun _ => ?_
  exact relation.holds_bind (told _ _) fun _ => relation.holds_pure _

end FromOutside

end HostRelation

end Vigil.Simulation
