import Vigil.Proofs.Simulation.SetUp
import Vigil.Proofs.Simulation.Settling
import Vigil.Proofs.Watch.Subscription

/-!
# Phases of a run

A run activates controllers and then carries out steps, and these are its phases.  `Serving` is
what holds between them: the functions stay those that the run began with, and a controller whose
condition compiles watches what its condition mentions from its activation on.
-/

namespace Vigil.Simulation

/-! ## Phases -/

/-- One phase of a run. -/
inductive Phase where
  | activation (controller : Controller)
  | step (step : Step)

/-- Carry out a phase. -/
def Phase.run {m : Type → Type} [Monad m] [MonadStateOf State m] : Phase → m Unit
  | .activation controller => do
    let _ ← activate controller
  | .step change => runStep change

/-- The phases of a scenario, once its flags and counters are set. -/
def Scenario.phases (scenario : Scenario) : List Phase :=
  scenario.controllers.map Phase.activation ++ scenario.steps.map Phase.step

/-- The state that a phase ends in. -/
def Phase.next (state : State) (phase : Phase) : State :=
  ((phase.run : Action Unit).run state).2

/-- The state after some phases of a scenario. -/
def Scenario.stateAfter (scenario : Scenario) (phases : List Phase) (prepared : State) : State :=
  phases.foldl Phase.next ((seed scenario.flags scenario.counters : Action Unit).run prepared).2

/-- What is done when all phases are over. -/
def Scenario.close (scenario : Scenario) (state : State) : State :=
  state.unload.log .info "simulation finished" [("steps", toString scenario.steps.length)]

theorem Phase.toPlain_run (phase : Phase) :
    Recorded.toPlain.apply (phase.run : Recorded Unit) = phase.run := by
  cases phase with
  | activation controller =>
      exact Recorded.toPlain.bind (Recorded.toPlain.activate controller) fun _ => rfl
  | step step => exact Recorded.toPlain.runStep step

theorem Phase.next_eq (state : State) (phase : Phase) :
    phase.next state = ((phase.run : Recorded Unit).run state).final := by
  rw [next, ← Phase.toPlain_run]
  rfl

theorem Scenario.stateAfter_concat (scenario : Scenario) (phases : List Phase) (phase : Phase)
    (prepared : State) :
    scenario.stateAfter (phases ++ [phase]) prepared =
      phase.next (scenario.stateAfter phases prepared) := by
  rw [stateAfter, List.foldl_append]
  rfl

/-- Flags and counters are set as by so many steps. -/
def Scenario.seeding (scenario : Scenario) : List Phase :=
  (scenario.flags.map fun flag => .step (.setFlag flag)) ++
    scenario.counters.map fun (counter, amount) => .step (.addCounter counter amount)

theorem forEach_run {Item : Type} {action : Item → Action Unit} {phase : Item → Phase}
    (same : ∀ item, action item = (phase item).run) (items : List Item) (state : State) :
    ((forEach action items).run state).2 = (items.map phase).foldl Phase.next state := by
  induction items generalizing state with
  | nil => rfl
  | cons item rest induction =>
      rw [forEach, same]
      exact induction ((phase item).next state)

theorem Scenario.stateAfter_eq (scenario : Scenario) (phases : List Phase) (prepared : State) :
    scenario.stateAfter phases prepared =
      (scenario.seeding ++ phases).foldl Phase.next prepared := by
  rw [stateAfter, seeding, List.foldl_append, List.foldl_append, ← forEach_run fun _ => rfl,
    ← forEach_run fun _ => rfl]
  rfl

theorem activateAll_run (controllers : List Controller) (state : State) :
    ((activateAll controllers : Action Nat).run state).2 =
      (controllers.map Phase.activation).foldl Phase.next state := by
  induction controllers generalizing state with
  | nil => rfl
  | cons controller rest induction => exact induction (Phase.next state (.activation controller))

theorem runSteps_run (steps : List Step) (state : State) :
    ((runSteps steps : Action (List StepOutcome)).run state).2 =
      (steps.map Phase.step).foldl Phase.next state := by
  induction steps generalizing state with
  | nil => rfl
  | cons step rest induction => exact induction (Phase.next state (.step step))

theorem length_runSteps (steps : List Step) (state : State) :
    ((runSteps steps : Action (List StepOutcome)).run state).1.length = steps.length := by
  induction steps generalizing state with
  | nil => rfl
  | cons step rest induction =>
      exact congrArg (· + 1) (induction (Phase.next state (.step step)))

/-- A run goes through its phases, and then closes. -/
theorem runScenario_run (scenario : Scenario) (prepared : State) :
    ((runScenario scenario : Action Report).run prepared).2 =
      scenario.close (scenario.stateAfter scenario.phases prepared) := by
  rw [Scenario.stateAfter, Scenario.phases, List.foldl_append, ← activateAll_run, ← runSteps_run]
  rw [Scenario.close, ← length_runSteps]
  rfl

theorem run_of_prepared {scenario : Scenario} {settings : Settings} {prepared : State}
    (made : prepare scenario settings = .ok prepared) :
    ∃ report,
      run scenario settings =
        .ok (report, scenario.close (scenario.stateAfter scenario.phases prepared)) := by
  refine ⟨((runScenario scenario : Action Report).run prepared).1, ?_⟩
  rw [run, made, ← runScenario_run]
  rfl

/-! ## Between the phases -/

/-- What the phases so far have left. -/
structure Serving (registry : Registry host.Sensor) (phases : List Phase) (state : State) :
    Prop where
  registered : state.registry = registry
  consistent : state.watcher.Consistent
  loaded : state.watcher.unloaded = false
  cached : state.cache.Sound
  /-- A controller watches what its condition mentions, if the condition compiles. -/
  served : ∀ controller, Phase.activation controller ∈ phases →
    ∀ expression, Expression.parse controller.condition = .ok expression →
      expression.tree.check registry = .ok () →
        ∀ name ∈ expression.functionNames, Watching state.watcher [name] ⟨controller, expression⟩

namespace Serving

variable {registry : Registry host.Sensor} {phases : List Phase} {start final : State}

/-- Nothing else of a state matters. -/
theorem of_same (serving : Serving registry phases start)
    (functions : final.registry = start.registry) (watcher : final.watcher = start.watcher)
    (cache : final.cache = start.cache) :
    Serving registry phases final where
  registered := functions.trans serving.registered
  consistent := watcher ▸ serving.consistent
  loaded := watcher ▸ serving.loaded
  cached := cache ▸ serving.cached
  served := watcher ▸ serving.served

theorem of_kept (serving : Serving registry phases start) (kept : Kept start final) :
    Serving registry phases final :=
  serving.of_same kept.registry kept.watcher kept.cache

/-- A step adds no controller. -/
theorem concat_step (serving : Serving registry phases start) (change : Step) :
    Serving registry (phases ++ [.step change]) start where
  registered := serving.registered
  consistent := serving.consistent
  loaded := serving.loaded
  cached := serving.cached
  served := by
    intro controller member
    rcases List.mem_append.mp member with early | last
    · exact serving.served controller early
    · cases List.mem_singleton.mp last

end Serving

theorem Unused.serving {state : State} (unused : Unused state) :
    Serving state.registry [] state where
  registered := rfl
  consistent := by
    rw [unused.watcher]
    exact Watcher.empty_consistent
  loaded := unused.loaded
  cached := unused.cached
  served := by
    intro controller member
    cases member

/-! ## Activation -/

/-- No flag changes and nothing is dropped. -/
structure Silent {α : Type} (start : State) (recording : Recording α) : Prop where
  still : Still start recording
  undropped : dropped recording.final = dropped start

theorem Watching.mono {before after : Watcher host.Callback} {names : List String} {active : Active}
    (watching : Watching before names active)
    (more : ∀ name, before.subscribers name ⊆ after.subscribers name) :
    Watching after names active := by
  rcases watching with ⟨name, member, subscription, listed, same⟩
  exact ⟨name, member, subscription, more name listed, same⟩

/-- The state once a controller has been subscribed. -/
def subscribed (start : State) (controller : Controller) (expression : Expression) : State :=
  let active : Active := ⟨controller, expression⟩
  let subscription := start.watcher.subscribe expression.functionNames active
  ({ (start.parse controller.condition).2 with watcher := subscription.2 } : State).log .debug
    "subscribed"
    [("subscription", SubscriptionId.label subscription.1),
      ("names", Text.quotedList expression.functionNames)]

/-- A condition that compiles lets its controller be subscribed, unless all is unloaded. -/
theorem subscribeController_run {start : State} {controller : Controller} {expression : Expression}
    {number : Nat} (loaded : start.watcher.unloaded = false)
    (read : Expression.parse controller.condition = .ok expression)
    (compiled : start.compile controller.condition =
      (.ok ⟨expression, number⟩, (start.parse controller.condition).2)) :
    (subscribeController controller : Recorded _).run start =
      ⟨.ok ((start.watcher.subscribe expression.functionNames
          (⟨controller, expression⟩ : Active)).1, ⟨controller, expression⟩),
        subscribed start controller expression,
        [(start.parse controller.condition).2, subscribed start controller expression]⟩ := by
  have enlisted :
      (start.parse controller.condition).2.subscribe controller.condition ⟨controller, expression⟩ =
        (.ok (start.watcher.subscribe expression.functionNames
            (⟨controller, expression⟩ : Active)).1,
          subscribed start controller expression) := by
    have stillLoaded : (start.parse controller.condition).2.watcher.unloaded = false := loaded
    rw [Context.subscribe, Expression.namesIn_of_parse read]
    dsimp only
    rw [stillLoaded]
    rfl
  rw [subscribeController, Recorded.run_bind (Recorded.run_modifyGet compiled)]
  dsimp only
  rw [Recorded.run_bind (Recorded.run_modifyGet enlisted)]
  rfl

section Activation

variable {registry : Registry host.Sensor} {phases : List Phase} {start : State}
variable (serving : Serving registry phases start) (controller : Controller)
include serving

/-- Reading a condition changes the cache only. -/
theorem parse_serving : Serving registry phases (start.parse controller.condition).2 where
  registered := serving.registered
  consistent := serving.consistent
  loaded := serving.loaded
  cached := serving.cached.parse controller.condition
  served := serving.served

/-- Once a controller has been subscribed, it watches what its condition mentions. -/
theorem subscribe_serving {expression : Expression}
    (read : Expression.parse controller.condition = .ok expression) {later : State}
    (registered : later.registry = start.registry) (cache : later.cache = start.cache)
    (watcher : later.watcher =
      (start.watcher.subscribe expression.functionNames (⟨controller, expression⟩ : Active)).2) :
    Serving registry (phases ++ [.activation controller]) later := by
  have distinct := Expression.nodup_functionNames expression
  have listed (name : String) := Watcher.subscribers_subscribe
    (⟨controller, expression⟩ : Active) serving.loaded distinct name
  rw [← watcher] at listed
  refine ⟨registered.trans serving.registered, ?_, ?_, cache ▸ serving.cached, ?_⟩
  · rw [watcher]
    exact serving.consistent.subscribe distinct _
  · rw [watcher, Watcher.unloaded_subscribe]
    exact serving.loaded
  · -- Whoever watched a function still does, before the new subscription.
    intro other member condition parsed checked name mentioned
    rcases List.mem_append.mp member with early | last
    · have watching := serving.served other early condition parsed checked name mentioned
      refine watching.mono fun name => ?_
      rw [listed]
      exact List.subset_append_left _ _
    · cases List.mem_singleton.mp last
      rw [read] at parsed
      cases parsed
      refine ⟨name, List.mem_singleton_self name, ⟨start.watcher.nextId, _⟩, ?_, rfl⟩
      rw [listed, if_pos mentioned]
      exact List.mem_append_right _ (List.mem_singleton_self _)

/-- A condition that does not compile leaves its controller out. -/
theorem disabled_serving
    (never : ∀ expression, Expression.parse controller.condition = .ok expression →
      expression.tree.check registry ≠ .ok ()) :
    Serving registry (phases ++ [.activation controller]) start where
  registered := serving.registered
  consistent := serving.consistent
  loaded := serving.loaded
  cached := serving.cached
  served := by
    intro other member expression read checked
    rcases List.mem_append.mp member with early | last
    · exact serving.served other early expression read checked
    · cases List.mem_singleton.mp last
      exact absurd checked (never expression read)

/-- Subscribing a controller changes no flag. -/
theorem subscribeController_serving :
    Serving registry (phases ++ [.activation controller])
        ((subscribeController controller : Recorded _).run start).final ∧
      Silent start ((subscribeController controller : Recorded _).run start) := by
  have parsed := parse_serving serving controller
  rcases Context.compile_cases serving.cached controller.condition with
    ⟨error, compiled, never⟩ | ⟨expression, number, compiled, read, -⟩
  · rw [serving.registered] at never
    rw [subscribeController, Recorded.run_bind (Recorded.run_modifyGet compiled)]
    refine ⟨disabled_serving parsed controller never, ⟨?_, rfl⟩, rfl⟩
    rintro moment (_ | ⟨_, ⟨⟩⟩)
    rfl
  · rw [subscribeController_run serving.loaded read compiled]
    refine ⟨subscribe_serving parsed controller read rfl rfl rfl, ⟨?_, rfl⟩, ?_⟩
    · rintro moment (_ | ⟨_, _ | ⟨_, ⟨⟩⟩⟩) <;> rfl
    · exact dropped_log _ _ _ _

end Activation

end Vigil.Simulation
