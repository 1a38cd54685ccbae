import Vigil.Proofs.Simulation.Polling

/-!
# Disabled controllers

A controller whose condition does not compile is never subscribed, and all that is left of it is an
entry in the journal and perhaps other expressions in the parse cache.  Neither is looked at by
anything that changes a board: a cache answers what parsing would, and nobody reads the journal.  So
the states of a run and of the same run without these controllers are `Peers`, and both show the
same flags.

Whether a condition compiles depends on the registered functions alone, and these are the same in
every state of a run.
-/

namespace Vigil.Simulation

/-! ## Conditions that compile -/

/-- The functions of every run under some settings. -/
def functionsUnder (settings : Settings) : Registry host.Sensor :=
  Registry.empty.addAll (functionsBefore settings ++ BoardSensor.all.map BoardSensor.definition)

namespace Controller

variable {controller : Controller} {registry : Registry host.Sensor}

theorem compiles_of_compile {expression : Expression}
    (compiled : registry.compile controller.condition = .ok expression) :
    controller.Compiles registry :=
  ⟨expression, Registry.compile_eq_ok_iff.mp compiled⟩

theorem not_compiles_of_compile {error : ConditionError}
    (failed : registry.compile controller.condition = .error error) :
    ¬controller.Compiles registry := by
  rintro ⟨expression, compiles⟩
  rw [Registry.compile_eq_ok_iff.mpr compiles] at failed
  cases failed

instance (controller : Controller) (registry : Registry host.Sensor) :
    Decidable (controller.Compiles registry) :=
  match compiled : registry.compile controller.condition with
  | .ok _ => .isTrue (compiles_of_compile compiled)
  | .error _ => .isFalse (not_compiles_of_compile compiled)

end Controller

/-- A scenario without the controllers whose conditions do not compile. -/
def Scenario.compiling (scenario : Scenario) (registry : Registry host.Sensor) : Scenario :=
  { scenario with controllers := scenario.controllers.filter (·.Compiles registry) }

/-! ## What an activation comes to -/

/-- What ends in one result from everywhere does so after another action. -/
theorem run_bind_result {α β : Type} {action : Action α} {next : α → Action β} {result : β}
    (always : ∀ given later, ((next given).run later).1 = result) (state : State) :
    ((action >>= next).run state).1 = result :=
  always _ _

section Activation

variable {state : State} (cached : state.cache.Sound) {controller : Controller}
include cached

theorem subscribeController_of_error {error : ConditionError}
    (failed : state.registry.compile controller.condition = .error error) :
    (subscribeController controller : Action _).run state =
      (.error error, (state.parse controller.condition).2) := by
  have outcome := Context.compile_eq cached controller.condition
  rw [failed] at outcome
  rcases Context.compile_cases cached controller.condition with
    ⟨other, compiled, -⟩ | ⟨expression, number, compiled, -⟩
  · rw [compiled] at outcome
    cases outcome
    rw [← Recorded.toPlain.relation.subscribeController controller]
    show Recorded.plain _ state = _
    rw [Recorded.plain, subscribeController, Recorded.run_bind (Recorded.run_modifyGet compiled)]
    rfl
  · rw [compiled] at outcome
    cases outcome

variable (loaded : state.watcher.unloaded = false)
include loaded

theorem subscribeController_of_compile {expression : Expression}
    (compiled : state.registry.compile controller.condition = .ok expression) :
    (subscribeController controller : Action _).run state =
      (.ok (state.watcher.nextId, ⟨controller, expression⟩),
        subscribed state controller expression) := by
  rcases Registry.compile_eq_ok_iff.mp compiled with ⟨read, checked⟩
  rcases Context.compile_of_checked cached read checked with ⟨number, found⟩
  rw [← Recorded.toPlain.relation.subscribeController controller]
  show Recorded.plain _ state = _
  rw [Recorded.plain, subscribeController_run loaded read found, Watcher.subscribe_id]

theorem activate_of_compile {expression : Expression}
    (compiled : state.registry.compile controller.condition = .ok expression) :
    ((activate controller : Action Bool).run state).1 = true := by
  rw [activate, StateT.run_bind, subscribeController_of_compile cached loaded compiled]
  refine run_bind_result (fun outcome later => ?_) _
  cases outcome <;> rfl

omit loaded in
theorem activate_of_error {error : ConditionError}
    (failed : state.registry.compile controller.condition = .error error) :
    (activate controller : Action Bool).run state =
      (false, (state.parse controller.condition).2.log .warn "controller disabled"
        [("condition", controller.condition), ("error", error.message)]) := by
  rw [activate, StateT.run_bind, subscribeController_of_error cached failed]
  rfl

end Activation

/-! ## Peers -/

/-- States that differ in nothing but their caches, which are sound, and their journals. -/
structure Peers (state state' : State) : Prop where
  registry : state'.registry = state.registry
  watcher : state'.watcher = state.watcher
  events : state'.events = state.events
  poller : state'.poller = state.poller
  data : state'.data = state.data
  loaded : state.watcher.unloaded = false
  cached : state.cache.Sound
  cached' : state'.cache.Sound

theorem Peers.board {state state' : State} (peers : Peers state state') :
    state'.data.board = state.data.board := by
  rw [peers.data]

/-- What the host does comes to the same in peers, if its notifications do. -/
def betweenPeers : HostRelation Action Action where
  Holds := Respects Peers
  holds_pure := fun _ _ _ peers => ⟨rfl, peers⟩
  holds_bind := .bind
  Alike := Peers
  registry_eq := Peers.registry
  watcher_eq := Peers.watcher
  events_eq := Peers.events
  holds_look := fun further state state' peers => further state state' peers state state' peers
  Told := fun _ => True
  told_of_delivery := fun _ _ => trivial
  holds_report := fun _ _ _ _ _ peers => ⟨rfl, { peers with }⟩
  board_eq := Peers.board
  told_of_host := fun _ _ => trivial
  holds_evaluate := fun expression state state' peers => by
    rw [evaluate_run, evaluate_run, peers.registry, peers.board]
    exact ⟨rfl, peers⟩

theorem changeBoard_respects (change : Board → Board) :
    Respects Peers (changeBoard change) (changeBoard change) :=
  fun _ _ peers => ⟨rfl, { peers with
    data := congrArg (fun data : World => { data with board := change data.board }) peers.data }⟩

theorem changeDepth_respects (change : Nat → Nat) :
    Respects Peers (changeDepth change) (changeDepth change) :=
  fun _ _ peers => ⟨rfl, { peers with
    data := congrArg (fun data : World => { data with depth := change data.depth }) peers.data }⟩

theorem notify_respects (room : Nat) (names : List String) :
    Respects Peers (notify room names) (notify room names) := by
  induction room generalizing names with
  | zero =>
      refine betweenPeers.holds_look fun state state' peers => ?_
      rw [peers.data]
      refine .bind (changeDepth_respects _) fun _ => ?_
      exact .bind (betweenPeers.holds_report trivial _ _) fun _ => changeDepth_respects _
  | succ room induction =>
      have serves := betweenPeers.serves (fun change _ => changeBoard_respects change) induction
      have touched := betweenPeers.touchNoting serves names
      exact .bind (changeDepth_respects _) fun _ => .bind touched fun _ => changeDepth_respects _

theorem observeAll_respects (samples : List (String × Value)) :
    Respects Peers (modifyGetThe State (·.observeAll samples))
      (modifyGetThe State (·.observeAll samples)) := by
  intro state state' peers
  show (state'.observeAll samples).1 = (state.observeAll samples).1 ∧
    Peers (state.observeAll samples).2 (state'.observeAll samples).2
  rw [Context.observeAll, Context.observeAll, peers.poller]
  refine ⟨rfl, List.foldl_rel { peers with poller := rfl } ?_⟩
  rintro change - later later' peers
  exact { peers with }

theorem Peers.subscribed {state state' : State} (peers : Peers state state')
    (controller : Controller) (expression : Expression) :
    Peers (subscribed state controller expression) (subscribed state' controller expression) where
  registry := peers.registry
  watcher := by
    show (state'.watcher.subscribe _ _).2 = (state.watcher.subscribe _ _).2
    rw [peers.watcher]
  events := peers.events
  poller := peers.poller
  data := peers.data
  loaded := (Watcher.unloaded_subscribe _).trans peers.loaded
  cached := peers.cached.parse controller.condition
  cached' := peers.cached'.parse controller.condition

theorem subscribeController_respects (controller : Controller) :
    Respects Peers (subscribeController controller) (subscribeController controller) := by
  intro state state' peers
  have loaded' : state'.watcher.unloaded = false := peers.watcher ▸ peers.loaded
  cases compiled : state.registry.compile controller.condition with
  | error error =>
      rw [subscribeController_of_error peers.cached compiled,
        subscribeController_of_error peers.cached' (peers.registry ▸ compiled)]
      exact ⟨rfl, { peers with
        cached := peers.cached.parse controller.condition
        cached' := peers.cached'.parse controller.condition }⟩
  | ok expression =>
      rw [subscribeController_of_compile peers.cached peers.loaded compiled,
        subscribeController_of_compile peers.cached' loaded' (peers.registry ▸ compiled),
        peers.watcher]
      exact ⟨rfl, peers.subscribed controller expression⟩

theorem activate_respects (controller : Controller) :
    Respects Peers (activate controller) (activate controller) :=
  betweenPeers.activate (fun change _ => changeBoard_respects change) (notify_respects cascadeLimit)
    (subscribeController_respects controller)

theorem runSteps_respects (steps : List Step) :
    Respects Peers (runSteps steps) (runSteps steps) :=
  betweenPeers.runSteps (fun change _ => changeBoard_respects change) (notify_respects cascadeLimit)
    (fun _ _ => changeBoard_respects _)
    (fun peers => by rw [Context.strategyOf, Context.strategyOf, peers.poller])
    (fun peers => by rw [peers.poller]) observeAll_respects steps

theorem activateAll_cons_run (controller : Controller) (rest : List Controller) (state : State) :
    let activated := (activate controller : Action Bool).run state
    let others := (activateAll rest : Action Nat).run activated.2
    (activateAll (controller :: rest) : Action Nat).run state =
      (if activated.1 then others.1 else others.1 + 1, others.2) :=
  rfl

/-- Controllers that do not compile are counted, and the others are activated as without them. -/
theorem activateAll_compiling {registry : Registry host.Sensor} {phases : List Phase}
    {state state' : State} (serving : Serving registry phases state) (peers : Peers state state')
    (controllers : List Controller) :
    let compiling := controllers.filter (·.Compiles registry)
    ((activateAll controllers : Action Nat).run state).1 =
        controllers.countP (¬ ·.Compiles registry) ∧
      ((activateAll compiling : Action Nat).run state').1 = 0 ∧
      Peers ((activateAll controllers : Action Nat).run state).2
        ((activateAll compiling : Action Nat).run state').2 := by
  induction controllers generalizing phases state state' with
  | nil => exact ⟨rfl, rfl, peers⟩
  | cons controller rest induction =>
      have served : Serving registry _ ((activate controller : Action Bool).run state).2 :=
        serving.next (.activation controller)
      cases compiled : registry.compile controller.condition with
      | error error =>
          have fails := Controller.not_compiles_of_compile compiled
          rw [← serving.registered] at compiled
          have ran := activate_of_error serving.cached compiled
          have without : Peers ((activate controller : Action Bool).run state).2 state' := by
            rw [ran]
            exact { peers with cached := peers.cached.parse controller.condition }
          rcases induction served without with ⟨counted, none, ended⟩
          rw [List.countP_cons_of_pos (by simpa using fails),
            List.filter_cons_of_neg (by simpa using fails)]
          dsimp only
          rw [activateAll_cons_run, ← counted]
          rw [ran] at ended ⊢
          exact ⟨rfl, none, ended⟩
      | ok expression =>
          have compiles := Controller.compiles_of_compile compiled
          rw [← serving.registered] at compiled
          have answer := activate_of_compile serving.cached serving.loaded compiled
          rcases activate_respects controller state state' peers with ⟨same, between⟩
          rcases induction served between with ⟨counted, none, ended⟩
          rw [List.countP_cons_of_neg (by simpa using compiles),
            List.filter_cons_of_pos (by simpa using compiles)]
          dsimp only
          rw [activateAll_cons_run, activateAll_cons_run, ← counted, same, answer]
          exact ⟨rfl, none, ended⟩

/-! ## Subscriptions stay -/

/-- A subscription of a controller, which watches what the condition of the controller mentions. -/
structure Enlisted (watcher : Watcher host.Callback) (id : SubscriptionId) (active : Active) :
    Prop where
  watched : watcher.watchedNames? id = some active.condition.functionNames
  listed : ∀ name ∈ active.condition.functionNames, ⟨id, active⟩ ∈ watcher.subscribers name

section Enlisting

variable {watcher : Watcher host.Callback} (loaded : watcher.unloaded = false)
include loaded

theorem enlisted_subscribe (controller : Controller) (expression : Expression) :
    Enlisted (watcher.subscribe expression.functionNames (⟨controller, expression⟩ : Active)).2
      watcher.nextId ⟨controller, expression⟩ where
  watched := by
    rw [Watcher.watchedNames?_subscribe _ loaded, if_pos rfl]
  listed := by
    intro name mentioned
    rw [Watcher.subscribers_subscribe _ loaded expression.nodup_functionNames, if_pos mentioned]
    exact List.mem_append_right _ (List.mem_singleton_self _)

/-- Numbers are not given twice, so what is subscribed later leaves a subscription as it is. -/
theorem Enlisted.subscribe {id : SubscriptionId} {active : Active}
    (enlisted : Enlisted watcher id active) (consistent : watcher.Consistent)
    (later : Active) :
    Enlisted (watcher.subscribe later.condition.functionNames later).2 id active where
  watched := by
    have issued := consistent.issued id _ enlisted.watched
    rw [Watcher.watchedNames?_subscribe _ loaded, if_neg (Nat.ne_of_lt issued)]
    exact enlisted.watched
  listed := by
    intro name mentioned
    rw [Watcher.subscribers_subscribe _ loaded later.condition.nodup_functionNames]
    exact List.mem_append_left _ (enlisted.listed name mentioned)

end Enlisting

/-- The subscriptions are the same in the end. -/
def KeepsWatcher {α : Type} (action : Action α) : Prop :=
  ∀ state : State, (action.run state).2.watcher = state.watcher

theorem KeepsWatcher.bind {α β : Type} {action : Action α} {next : α → Action β}
    (first : KeepsWatcher action) (second : ∀ result, KeepsWatcher (next result)) :
    KeepsWatcher (action >>= next) :=
  fun state => (second _ _).trans (first state)

/-- Of all that the host does, only subscribing changes the subscriptions. -/
def keepingWatcher : HostRelation Action Action :=
  .ofSame
    { Holds := fun action _ => KeepsWatcher action
      holds_pure := fun _ _ => rfl
      holds_bind := .bind }
    (fun further state => further state state)
    (fun _ _ _ _ => rfl)
    (fun expression state => by rw [evaluate_run])

theorem notify_keepsWatcher (room : Nat) (names : List String) :
    KeepsWatcher (notify room names) := by
  induction room generalizing names with
  | zero => exact fun _ => rfl
  | succ room induction =>
      have same : ∀ names, keepingWatcher.Holds (notify room names) (notify room names) := induction
      have serves := keepingWatcher.serves (fun _ _ _ => rfl) same
      exact fun state => keepingWatcher.touchNoting serves names _

theorem applyController_keepsWatcher (active : Active) :
    KeepsWatcher (applyController notifyTop active) := by
  have top : ∀ names, keepingWatcher.Holds (notifyTop names) (notifyTop names) :=
    notify_keepsWatcher cascadeLimit
  exact keepingWatcher.applyAny (fun _ _ _ => rfl) top active

theorem runStep_keepsWatcher (step : Step) : KeepsWatcher (runStep step) :=
  keepingWatcher.runStep (fun _ _ _ => rfl) (notify_keepsWatcher cascadeLimit) (fun _ _ _ => rfl)
    (fun same => same ▸ rfl) (fun same => same ▸ rfl)
    (fun samples state => (observeAll_kept state samples).watcher) step

section Phases

variable {registry : Registry host.Sensor} {phases : List Phase} {state : State}
variable (serving : Serving registry phases state)
include serving

theorem watcher_of_activate {controller : Controller} {expression : Expression}
    (compiled : registry.compile controller.condition = .ok expression) :
    (Phase.next state (.activation controller)).watcher =
      (state.watcher.subscribe expression.functionNames
        (⟨controller, expression⟩ : Active)).2 := by
  rw [← serving.registered] at compiled
  show ((activate controller : Action Bool).run state).2.watcher = _
  rw [activate, StateT.run_bind,
    subscribeController_of_compile serving.cached serving.loaded compiled]
  have applied := applyController_keepsWatcher ⟨controller, expression⟩
  refine KeepsWatcher.bind applied (fun outcome => ?_) _
  cases outcome <;> exact fun _ => rfl

theorem Enlisted.next {id : SubscriptionId} {active : Active}
    (enlisted : Enlisted state.watcher id active) (phase : Phase) :
    Enlisted (phase.next state).watcher id active := by
  cases phase with
  | step step => exact runStep_keepsWatcher step state ▸ enlisted
  | activation controller =>
      cases compiled : registry.compile controller.condition with
      | error error =>
          rw [← serving.registered] at compiled
          show Enlisted ((activate controller : Action Bool).run state).2.watcher id active
          rw [activate_of_error serving.cached compiled]
          exact enlisted
      | ok expression =>
          rw [watcher_of_activate serving compiled]
          exact enlisted.subscribe serving.loaded serving.consistent ⟨controller, expression⟩

theorem Enlisted.foldl {id : SubscriptionId} {active : Active}
    (enlisted : Enlisted state.watcher id active) (later : List Phase) :
    Enlisted (later.foldl Phase.next state).watcher id active := by
  induction later generalizing phases state with
  | nil => exact enlisted
  | cons phase rest induction => exact induction (serving.next phase) (enlisted.next serving phase)

end Phases

/-! ## Runs -/

/-- Whether a controller is active is decided by the functions alone. -/
theorem activate_eq_true_iff {registry : Registry host.Sensor} {phases : List Phase}
    {state : State} (serving : Serving registry phases state) (controller : Controller) :
    ((activate controller : Action Bool).run state).1 = true ↔ controller.Compiles registry := by
  cases compiled : registry.compile controller.condition with
  | error error =>
      refine iff_of_false ?_ (Controller.not_compiles_of_compile compiled)
      rw [← serving.registered] at compiled
      rw [activate_of_error serving.cached compiled]
      exact Bool.false_ne_true
  | ok expression =>
      refine iff_of_true ?_ (Controller.compiles_of_compile compiled)
      rw [← serving.registered] at compiled
      exact activate_of_compile serving.cached serving.loaded compiled

/--
Every run counts as disabled the controllers whose conditions do not compile against the functions
of the settings.  Without these controllers a run counts none, and shows the same flags at first and
after each step.

In every state that phases lead to, texts compile as the functions alone say.  A controller is
active there if its condition compiles; it is then subscribed under the next number, and whatever
phases follow it watches what the condition mentions.
-/
theorem disabled_controllers_are_inert (scenario : Scenario) (settings : Settings) :
    let functions := functionsUnder settings
    ∃ prepared report final report' final',
      prepare scenario settings = .ok prepared ∧
      run scenario settings = .ok (report, final) ∧
      run (scenario.compiling functions) settings = .ok (report', final') ∧
      report.disabledControllers = scenario.controllers.countP (¬ ·.Compiles functions) ∧
      report'.disabledControllers = 0 ∧
      report'.initialFlags = report.initialFlags ∧
      report'.steps = report.steps ∧
      ∀ phases,
        let state := scenario.stateAfter phases prepared
        (∀ source, (state.compile source).1.map Parsed.expression = functions.compile source) ∧
        ∀ controller,
          (((activate controller : Action Bool).run state).1 = true ↔
            controller.Compiles functions) ∧
          ∀ expression, functions.compile controller.condition = .ok expression →
            ∀ later,
              let after := scenario.stateAfter (phases ++ .activation controller :: later) prepared
              Enlisted after.watcher state.watcher.nextId ⟨controller, expression⟩ := by
  intro functions
  let others := scenario.compiling functions
  rcases prepare_prepared scenario settings with ⟨prepared, made, found⟩
  have serving (phases : List Phase) :
      Serving functions (scenario.seeding ++ phases) (scenario.stateAfter phases prepared) := by
    have served := Scenario.stateAfter_serving made phases
    rw [found.registered] at served
    exact served
  -- Flags and counters are set before there are controllers, so this is the same in both runs.
  let seeded := scenario.stateAfter [] prepared
  have begun : Serving functions _ seeded := serving []
  have peers : Peers seeded seeded :=
    ⟨rfl, rfl, rfl, rfl, rfl, begun.loaded, begun.cached, begun.cached⟩
  rcases activateAll_compiling begun peers scenario.controllers with ⟨counted, none, active⟩
  rcases runSteps_respects scenario.steps _ _ active with ⟨noted, -⟩
  let ended := (runScenario scenario : Action Report).run prepared
  let ended' := (runScenario others : Action Report).run prepared
  have ran : run scenario settings = .ok ended := by
    rw [run, made]
    rfl
  have made' : prepare others settings = .ok prepared := made
  have ran' : run others settings = .ok ended' := by
    rw [run, made']
    rfl
  refine ⟨prepared, ended.1, ended.2, ended'.1, ended'.2, made, ran, ran', counted, none,
    congrArg Board.flags active.board, noted, fun phases => ⟨?_, fun controller => ⟨?_, ?_⟩⟩⟩
  · intro source
    rw [← (serving phases).registered]
    exact Context.compile_eq (serving phases).cached source
  · exact activate_eq_true_iff (serving phases) controller
  · intro expression compiled later
    have enlisted := enlisted_subscribe (serving phases).loaded controller expression
    rw [← watcher_of_activate (serving phases) compiled] at enlisted
    rw [scenario.stateAfter_append]
    exact enlisted.foldl ((serving phases).next (.activation controller)) later

end Vigil.Simulation
