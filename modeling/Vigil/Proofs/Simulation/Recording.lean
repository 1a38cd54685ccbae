import Vigil.Proofs.Context.Parsing
import Vigil.Proofs.Expr.Translation
import Vigil.Proofs.Simulation.Relation

/-!
# Recordings of a simulation

A run of a simulation shows what it ends in, and nothing of what happens on the way.  The host is
written for every monad that carries the state, so it also runs in one that keeps every state that
is written.  `StateTranslation` says that the host does the same in all of these monads; a recorded
run is then a plain run with its moments beside it.

Two monads that carry the state are compared in one and the same state, so a `StateRelation` is a
`HostRelation` where states are alike if they are equal.  It asks for less: whatever leaves the
depth of notifications as it is corresponds at once.
-/

namespace Vigil

/-! ## What leaves the data of the host alone -/

namespace Context

variable {host : Host} (context : Context host)

theorem data_compile (source : String) : (context.compile source).2.data = context.data := by
  rw [compile_context]
  rfl

theorem data_subscribe (source : String) (callback : host.Callback) :
    (context.subscribe source callback).2.data = context.data := by
  rw [subscribe]
  split
  · rfl
  · dsimp only
    split <;> rfl

theorem data_observeAll (samples : List (String × Value)) :
    (context.observeAll samples).2.data = context.data :=
  List.foldlRecOn (motive := fun later : Context host => later.data = context.data) _ _ rfl
    fun _ same _ _ => same

end Context

namespace Simulation

/-! ## Relations between actions -/

/--
A relation between the actions of two monads that carry a state.  Sequences respect it, and so does
whatever leaves the depth of notifications as it is.
-/
structure StateRelation (m n : Type → Type)
    [Monad m] [Monad n] [MonadStateOf State m] [MonadStateOf State n] where
  Holds : {α : Type} → m α → n α → Prop
  holds_pure : ∀ {α : Type} (result : α), Holds (pure result : m α) (pure result)
  holds_bind : ∀ {α β : Type} {action : m α} {action' : n α} {next : α → m β} {next' : α → n β},
    Holds action action' → (∀ result, Holds (next result) (next' result)) →
      Holds (action >>= next) (action' >>= next')
  holds_get : Holds (getThe State : m State) (getThe State)
  holds_modifyGet : ∀ {α : Type} (change : State → α × State),
    (∀ state, (change state).2.data.depth = state.data.depth) →
      Holds (modifyGetThe State change : m α) (modifyGetThe State change)
  holds_evaluate : ∀ expression : Expression,
    Holds (Context.evaluate (m := m) runSensor expression) (Context.evaluate runSensor expression)

namespace StateRelation

variable {m n : Type → Type} [Monad m] [Monad n] [MonadStateOf State m] [MonadStateOf State n]
variable (relation : StateRelation m n)

theorem modify (change : State → State)
    (level : ∀ state, (change state).data.depth = state.data.depth) :
    relation.Holds (modifyThe State change : m Unit) (modifyThe State change) :=
  relation.holds_modifyGet (fun state => ((), change state)) level

theorem report (level : Log.Level) (message : String) (fields : List (String × String)) :
    relation.Holds (Context.report host level message fields : m Unit)
      (Context.report host level message fields) :=
  relation.modify _ fun _ => rfl

theorem changeBoard (change : Board → Board) :
    relation.Holds (Simulation.changeBoard change : m Unit) (Simulation.changeBoard change) :=
  relation.modify _ fun _ => rfl

/-- Where the same state is looked at, everything that the host looks at is the same. -/
def hostRelation : HostRelation m n :=
  .ofSame ⟨relation.Holds, relation.holds_pure, relation.holds_bind⟩
    (fun further => relation.holds_bind relation.holds_get further) relation.report
    relation.holds_evaluate

theorem touchNoting {callback : host.Callback → m Outcome} {callback' : host.Callback → n Outcome}
    (same : ∀ active, relation.Holds (callback active) (callback' active)) (names : List String) :
    relation.Holds (Simulation.touchNoting callback names)
      (Simulation.touchNoting callback' names) :=
  relation.hostRelation.touchNoting (fun _ _ _ _ _ _ => same _) names

theorem runController {notify : Notifier m} {notify' : Notifier n}
    (same : ∀ names, relation.Holds (notify names) (notify' names)) (active : Active) :
    relation.Holds (Simulation.runController notify active)
      (Simulation.runController notify' active) :=
  relation.hostRelation.runController
    (relation.hostRelation.applyAny (fun change _ => relation.changeBoard change) same active)

/-! ### Scenarios -/

theorem subscribeController (controller : Controller) :
    relation.Holds (Simulation.subscribeController controller)
      (Simulation.subscribeController controller) := by
  refine relation.holds_bind (relation.holds_modifyGet _ fun _ => ?_) fun compiled => ?_
  · rw [Context.data_compile]
  · cases compiled with
    | error error => exact relation.holds_pure _
    | ok parsed =>
        refine relation.holds_bind (relation.holds_modifyGet _ fun state => ?_) fun id => ?_
        · rw [Context.data_subscribe]
        · cases id <;> exact relation.holds_pure _

theorem observed (samples : List (String × Value)) :
    relation.Holds (modifyGetThe State (·.observeAll samples) : m (List String))
      (modifyGetThe State (·.observeAll samples)) :=
  relation.holds_modifyGet _ fun state => by rw [Context.data_observeAll]

variable (top : ∀ names, relation.Holds (notifyTop names : m Unit) (notifyTop names))
include top

theorem activate (controller : Controller) :
    relation.Holds (Simulation.activate controller) (Simulation.activate controller) :=
  relation.hostRelation.activate (fun change _ => relation.changeBoard change) top
    (relation.subscribeController controller)

theorem runStep (step : Step) :
    relation.Holds (Simulation.runStep step) (Simulation.runStep step) :=
  relation.hostRelation.runStep (fun change _ => relation.changeBoard change) top
    (fun _ _ => relation.changeBoard _) (fun same => same ▸ rfl) (fun same => same ▸ rfl)
    relation.observed step

theorem runScenario (scenario : Scenario) :
    relation.Holds (Simulation.runScenario scenario) (Simulation.runScenario scenario) :=
  relation.hostRelation.runScenario (fun change _ => relation.changeBoard change) top
    (fun _ _ => relation.changeBoard _) (fun same => same ▸ rfl) (fun same => same ▸ rfl)
    relation.observed
    (fun controller _ => relation.subscribeController controller) (relation.modify _ fun _ => rfl)

end StateRelation

/-! ## Translations -/

/-- A translation between monads that carry a state, which is read and written alike in both. -/
structure StateTranslation (m n : Type → Type)
    [Monad m] [Monad n] [MonadStateOf State m] [MonadStateOf State n]
    extends Translation m n where
  apply_get : apply (getThe State : m State) = getThe State
  apply_modifyGet : ∀ {α : Type} (change : State → α × State),
    apply (modifyGetThe State change : m α) = modifyGetThe State change

namespace StateTranslation

variable {m n : Type → Type} [Monad m] [Monad n] [MonadStateOf State m] [MonadStateOf State n]
variable (translation : StateTranslation m n)

theorem modify (change : State → State) :
    translation.apply (modifyThe State change : m Unit) = modifyThe State change :=
  translation.apply_modifyGet fun state => ((), change state)

theorem environment_runSensor :
    translation.environment (Context.environment (m := m) runSensor) =
      Context.environment runSensor := by
  rw [Translation.environment, Context.environment, Environment.mk.injEq]
  constructor
  · funext name
    exact translation.bind translation.apply_get fun state => translation.apply_pure _
  · funext sensor arguments
    exact translation.bind translation.apply_get fun state => translation.apply_pure _

theorem evaluate (expression : Expression) :
    translation.apply (Context.evaluate (m := m) runSensor expression) =
      Context.evaluate runSensor expression := by
  refine (Translation.evaluate translation.toTranslation _ expression.tree).trans ?_
  rw [environment_runSensor]
  rfl

/-- One action is the other translated. -/
def relation : StateRelation m n where
  Holds := fun action action' => translation.apply action = action'
  holds_pure := translation.apply_pure
  holds_bind := translation.bind
  holds_get := translation.apply_get
  holds_modifyGet := fun change _ => translation.apply_modifyGet change
  holds_evaluate := translation.evaluate

theorem notify (room : Nat) (names : List String) :
    translation.apply (Simulation.notify room names) = Simulation.notify room names := by
  induction room generalizing names with
  | zero =>
      refine translation.bind translation.apply_get fun state => ?_
      refine translation.bind (translation.modify _) fun _ => ?_
      exact translation.bind (translation.modify _) fun _ => translation.modify _
  | succ room induction =>
      refine translation.bind (translation.modify _) fun _ => ?_
      refine translation.bind ?_ fun _ => translation.modify _
      exact translation.relation.touchNoting (translation.relation.runController induction) names

theorem activate (controller : Controller) :
    translation.apply (Simulation.activate controller) = Simulation.activate controller :=
  translation.relation.activate (translation.notify cascadeLimit) controller

theorem runStep (step : Step) :
    translation.apply (Simulation.runStep step) = Simulation.runStep step :=
  translation.relation.runStep (translation.notify cascadeLimit) step

theorem runScenario (scenario : Scenario) :
    translation.apply (Simulation.runScenario scenario) = Simulation.runScenario scenario :=
  translation.relation.runScenario (translation.notify cascadeLimit) scenario

end StateTranslation

/-! ## Recorded actions -/

/-- What an action comes to.  Its moments are the states that it writes, oldest first. -/
structure Recording (α : Type) where
  result : α
  final : State
  moments : List State

/-- An action of a simulation that keeps its moments. -/
structure Recorded (α : Type) where
  run : State → Recording α

namespace Recorded

instance : Monad Recorded where
  pure result := ⟨fun state => ⟨result, state, []⟩⟩
  bind action next := ⟨fun state =>
    let first := action.run state
    let second := (next first.result).run first.final
    ⟨second.result, second.final, first.moments ++ second.moments⟩⟩

instance : MonadStateOf State Recorded where
  get := ⟨fun state => ⟨state, state, []⟩⟩
  set := fun state => ⟨fun _ => ⟨(), state, [state]⟩⟩
  modifyGet := fun change => ⟨fun state => ⟨(change state).1, (change state).2, [(change state).2]⟩⟩

theorem run_bind {α β : Type} {action : Recorded α} {start middle : State} {result : α}
    {moments : List State} (ran : action.run start = ⟨result, middle, moments⟩)
    (next : α → Recorded β) :
    (action >>= next).run start =
      ⟨((next result).run middle).result, ((next result).run middle).final,
        moments ++ ((next result).run middle).moments⟩ := by
  show Recording.mk _ _ ((action.run start).moments ++ _) = _
  rw [ran]

theorem run_modifyGet {α : Type} {change : State → α × State} {start later : State} {result : α}
    (changed : change start = (result, later)) :
    (modifyGetThe State change : Recorded α).run start = ⟨result, later, [later]⟩ := by
  show Recording.mk (change start).1 (change start).2 [(change start).2] = _
  rw [changed]

/-- An action without its moments. -/
def plain {α : Type} (action : Recorded α) : Action α := fun state =>
  ((action.run state).result, (action.run state).final)

/-- Whether moments are kept makes no difference to what an action comes to. -/
def toPlain : StateTranslation Recorded Action where
  apply := plain
  apply_pure := fun _ => rfl
  apply_map := fun _ _ => rfl
  apply_bind := fun _ _ => rfl
  apply_get := rfl
  apply_modifyGet := fun _ => rfl

end Recorded

/-! ## The value of a condition -/

/-- The functions of a board. -/
def boardEnvironment (registry : Registry BoardSensor) (board : Board) :
    Environment Id BoardSensor where
  lookup? := fun name => registry.lookup? name
  call := fun sensor arguments => sensor.answer board arguments

/-- What an expression comes to where these functions and this board are given. -/
def outcomeOn (registry : Registry BoardSensor) (board : Board) (expression : Expression) :
    Except EvalError Value :=
  (expression.tree.evaluate (boardEnvironment registry board)).run

section Outcome

/-- The functions of a board, where the state may be looked at. -/
def lookingEnvironment : Environment (ReaderM State) BoardSensor where
  lookup? := fun name state => state.registry.lookup? name
  call := fun sensor arguments state => sensor.answer state.data.board arguments

/-- A look at one state. -/
def lookAt (state : State) : Translation (ReaderM State) Id where
  apply := fun look => look state
  apply_pure := fun _ => rfl
  apply_map := fun _ _ => rfl
  apply_bind := fun _ _ => rfl

/-- A look as an action that writes nothing. -/
def lookRecorded : Translation (ReaderM State) Recorded where
  apply := fun look => ⟨fun state => ⟨look state, state, []⟩⟩
  apply_pure := fun _ => rfl
  apply_map := fun _ _ => rfl
  apply_bind := fun _ _ => rfl

/-- Conditions look at the functions and at the board, and they write nothing. -/
theorem evaluate_recorded (expression : Expression) (state : State) :
    (Context.evaluate runSensor expression : Recorded (Except EvalError Value)).run state =
      ⟨outcomeOn state.registry state.data.board expression, state, []⟩ := by
  -- The same look is translated twice: to what it sees in one state, and to an action.
  have looked := (lookAt state).evaluate lookingEnvironment expression.tree
  have recorded := lookRecorded.evaluate lookingEnvironment expression.tree
  calc (Context.evaluate runSensor expression : Recorded (Except EvalError Value)).run state
    _ = (lookRecorded.apply (expression.tree.evaluate lookingEnvironment).run).run state :=
      congrArg (Recorded.run · state) recorded.symm
    _ = ⟨outcomeOn state.registry state.data.board expression, state, []⟩ :=
      congrArg (Recording.mk · state []) looked

theorem evaluate_run (expression : Expression) (state : State) :
    (Context.evaluate runSensor expression : Action (Except EvalError Value)).run state =
      (outcomeOn state.registry state.data.board expression, state) := by
  rw [← Recorded.toPlain.evaluate expression]
  show Recorded.plain _ state = _
  rw [Recorded.plain, evaluate_recorded]

end Outcome

end Simulation

end Vigil
