import Vigil.Proofs.Context.Parsing
import Vigil.Proofs.Sensor.Permanence
import Vigil.Simulation.Run

/-!
# Setting up always succeeds

A context may refuse a function or a probe.  It refuses none of those that a simulation brings:
the names of the board are identifiers, no two functions have one name, and a probe is added only
where the settings ask for polling.
-/

namespace Vigil

namespace Simulation

/-! ## The functions of a simulation -/

/-- A sensor of the board as a function of the host. -/
def BoardSensor.definition (sensor : BoardSensor) : Definition host.Sensor where
  name := sensor.name
  arity := sensor.arity
  body := .host sensor

/-- The functions that are there before those of the board. -/
def functionsBefore (settings : Settings) : List (Definition host.Sensor) :=
  if settings.builtins then Builtin.all.map .ofBuiltin else []

/-- The functions of the board stand in nobody's way, with or without the built-in ones. -/
theorem board_accepted (settings : Settings) :
    (Registry.empty.addAll (functionsBefore settings)).registerAll
        (BoardSensor.all.map BoardSensor.definition) =
      (Registry.empty.addAll
        (functionsBefore settings ++ BoardSensor.all.map BoardSensor.definition), .ok ()) := by
  have apart : ∀ definition ∈ BoardSensor.all.map BoardSensor.definition,
      definition.name ∉ (functionsBefore settings).map Definition.name := by
    rw [functionsBefore]
    cases settings.builtins <;> decide
  rw [Registry.addAll_append]
  refine Registry.registerAll_of_distinct ?_ (by decide) fun definition member => ?_
  · intro definition member
    rcases List.mem_map.mp member with ⟨sensor, -, rfl⟩
    cases sensor <;> decide +kernel
  · exact Registry.contains_addAll_eq_false rfl (apart definition member)

/-! ## What the set-up adds -/

/-- The texts that the set-up writes to the journal. -/
def setUpMessages : List String :=
  ["conditions context configured", "function registered", "probe registered"]

/-- Only the set-up has written to the journal. -/
def Quiet (state : State) : Prop :=
  ∀ entry ∈ state.journal, entry.message ∈ setUpMessages

theorem Quiet.log (state : State) (quiet : Quiet state) {message : String}
    (told : message ∈ setUpMessages) (level : Log.Level) (fields : List (String × String)) :
    Quiet (state.log level message fields) := by
  intro entry member
  rcases Array.mem_push.mp member with earlier | rfl
  · exact quiet entry earlier
  · exact told

/-- What adding functions and probes leaves as it is. -/
structure Equips (start final : State) : Prop where
  cache : final.cache = start.cache
  events : final.events = start.events
  strategies : final.poller.strategies = start.poller.strategies
  data : final.data = start.data
  quiet : Quiet start → Quiet final

namespace Equips

variable {start middle final : State}

theorem refl (state : State) : Equips state state :=
  ⟨rfl, rfl, rfl, rfl, id⟩

theorem trans (before : Equips start middle) (after : Equips middle final) :
    Equips start final where
  cache := after.cache.trans before.cache
  events := after.events.trans before.events
  strategies := after.strategies.trans before.strategies
  data := after.data.trans before.data
  quiet := fun quiet => after.quiet (before.quiet quiet)

theorem registerSensors {sensors : List BoardSensor}
    (registered : Simulation.registerSensors start sensors = .ok final) : Equips start final := by
  induction sensors generalizing start with
  | nil =>
      cases registered
      exact .refl _
  | cons sensor rest induction =>
      rw [Simulation.registerSensors, Context.register] at registered
      cases accepted : start.registry.register ⟨sensor.name, sensor.arity, .host sensor⟩ with
      | error error =>
          rw [accepted] at registered
          cases registered
      | ok registry =>
          rw [accepted] at registered
          let extended : State := { start with registry }
          have first : Equips start (extended.log .debug "function registered"
              [("function", sensor.name), ("arity", toString sensor.arity)]) :=
            ⟨rfl, rfl, rfl, rfl, fun quiet => Quiet.log extended quiet (by decide) _ _⟩
          exact first.trans (induction registered)

end Equips

/-- The probes that a strategy for the sum of the counters asks for. -/
def probesUnder (strategy : Strategy) : List (Probe host.Probe) :=
  if strategy = .poll then [⟨BoardSensor.counterTotal.name, .counterTotal, none⟩] else []

/-! ## The state of the set-up -/

/-- Nothing has been subscribed or notified yet. -/
structure Unused (state : State) : Prop where
  watcher : state.watcher = .empty
  cached : state.cache.Sound
  level : state.data.depth = 0

namespace Unused

variable {state later : State} (unused : Unused state)
include unused

theorem loaded : state.watcher.unloaded = false := by
  rw [unused.watcher]
  rfl

/-- Nothing else of a state matters. -/
theorem of_same (watcher : later.watcher = state.watcher) (cache : later.cache = state.cache)
    (data : later.data = state.data) : Unused later where
  watcher := watcher.trans unused.watcher
  cached := cache ▸ unused.cached
  level := data ▸ unused.level

end Unused

/-- What is more, these functions are registered, and no sensor is sampled. -/
structure Fresh (functions : Registry host.Sensor) (state : State) : Prop
    extends Unused state where
  registered : state.registry = functions
  unsampled : state.poller.probes = []

namespace Fresh

variable {functions extended : Registry host.Sensor} {state : State}

/-- What the registry accepts, the context accepts. -/
theorem registerSensors (fresh : Fresh functions state) {sensors : List BoardSensor}
    (accepted : functions.registerAll (sensors.map BoardSensor.definition) = (extended, .ok ())) :
    ∃ later, Simulation.registerSensors state sensors = .ok later ∧ Fresh extended later := by
  induction sensors generalizing functions state with
  | nil =>
      cases accepted
      exact ⟨state, rfl, fresh⟩
  | cons sensor rest induction =>
      rw [List.map_cons, Registry.registerAll, BoardSensor.definition] at accepted
      rw [Simulation.registerSensors, Context.register, fresh.registered]
      cases registered :
          functions.register ⟨sensor.name, sensor.arity, .host sensor⟩ with
      | error error =>
          rw [registered] at accepted
          cases accepted
      | ok larger =>
          rw [registered] at accepted
          exact induction ⟨fresh.toUnused.of_same rfl rfl rfl, rfl, fresh.unsampled⟩ accepted

/-- A probe is added only to a sensor that is polled, and it is the first. -/
theorem addProbes (fresh : Fresh functions state) :
    ∃ later, Simulation.addProbes state = .ok later ∧ Unused later ∧ Equips state later ∧
      later.registry = state.registry ∧
      later.poller.probes = probesUnder (state.strategyOf BoardSensor.counterTotal.name) := by
  rw [Simulation.addProbes, probesUnder]
  split
  · next polled =>
    have unpushed :
        state.poller.strategies.get? BoardSensor.counterTotal.name ≠ some .push := by
      intro pushed
      rw [Context.strategyOf, StrategyTable.strategyOf, pushed] at polled
      cases polled
    have unnamed : BoardSensor.counterTotal.name ∉ state.poller.names := by
      rw [Poller.names, fresh.unsampled]
      exact List.not_mem_nil
    rw [Context.addProbe, fresh.loaded, Poller.add, if_neg unpushed, if_neg unnamed]
    refine ⟨_, rfl, fresh.toUnused.of_same rfl rfl rfl, ⟨rfl, rfl, rfl, rfl, ?_⟩, rfl, ?_⟩
    · exact fun quiet => Quiet.log { state with poller := _ } quiet (by decide) _ _
    · exact congrArg (· ++ _) fresh.unsampled
  · exact ⟨state, rfl, fresh.toUnused, .refl state, rfl, fresh.unsampled⟩

end Fresh

/-! ## The set-up -/

theorem bareContext_succeeds (settings : Settings) :
    ∃ bare, bareContext settings = .ok bare ∧
      Fresh (Registry.empty.addAll (functionsBefore settings)) bare ∧
      bare.cache = .new settings.cacheCapacity ∧ bare.events = settings.eventBindings ∧
      bare.poller.strategies = settings.strategyTable ∧ bare.data.board = .empty ∧ Quiet bare := by
  rcases @Context.ofSettings_succeeds host settings ⟨.empty, 0⟩ with ⟨fields, made⟩
  rw [bareContext, made]
  refine ⟨_, rfl, ⟨⟨rfl, ParseCache.new_sound _, rfl⟩, rfl, rfl⟩, rfl, rfl, rfl, rfl, ?_⟩
  intro entry member
  rcases Array.mem_singleton.mp member with rfl
  exact List.mem_cons_self

/-- The events of a scenario, bound after those of the settings. -/
def boundEvents (scenario : Scenario) (settings : Settings) : EventBindings :=
  scenario.events.foldl (fun bindings event => bindings.bind event.name event.touches)
    settings.eventBindings

/-- Binding events changes the bindings alone. -/
theorem bindEvents_eq {state : State} (loaded : state.watcher.unloaded = false)
    (events : List EventSetting) :
    events.foldl (fun (state : State) event => state.bindEvent event.name event.touches) state =
      { state with
        events := events.foldl (fun bindings event => bindings.bind event.name event.touches)
          state.events } := by
  induction events generalizing state with
  | nil => rfl
  | cons event rest induction =>
      rw [List.foldl_cons, List.foldl_cons, Context.bindEvent, loaded]
      exact induction loaded

/-- What a scenario finds when its run begins. -/
structure Prepared (scenario : Scenario) (settings : Settings) (state : State) : Prop
    extends Unused state where
  registered : state.registry =
    Registry.empty.addAll (functionsBefore settings ++ BoardSensor.all.map BoardSensor.definition)
  cache : state.cache = .new settings.cacheCapacity
  events : state.events = boundEvents scenario settings
  strategies : state.poller.strategies = settings.strategyTable
  probes : state.poller.probes =
    probesUnder (settings.strategyTable.strategyOf BoardSensor.counterTotal.name)
  board : state.data.board = .empty
  quiet : Quiet state

theorem prepare_prepared (scenario : Scenario) (settings : Settings) :
    ∃ prepared, prepare scenario settings = .ok prepared ∧ Prepared scenario settings prepared := by
  rcases bareContext_succeeds settings with
    ⟨bare, made, fresh, cache, events, strategies, board, quiet⟩
  have binding :
      scenario.events.foldl (fun (state : State) event => state.bindEvent event.name event.touches)
        bare = { bare with events := boundEvents scenario settings } := by
    rw [bindEvents_eq fresh.loaded, events, boundEvents]
  have bound : Fresh (Registry.empty.addAll (functionsBefore settings))
      { bare with events := boundEvents scenario settings } :=
    ⟨fresh.toUnused.of_same rfl rfl rfl, fresh.registered, fresh.unsampled⟩
  rcases bound.registerSensors (board_accepted settings) with ⟨registered, sensing, equipped⟩
  rcases equipped.addProbes with ⟨prepared, sampling, unused, equips, registry, probes⟩
  have all := (Equips.registerSensors sensing).trans equips
  refine ⟨prepared, ?made, ⟨unused, ?_, ?_, all.events, ?_, ?_, ?_, all.quiet quiet⟩⟩
  case made =>
    rw [prepare, made]
    change equip (List.foldl _ bare _) = _
    rw [binding, equip, sensing]
    exact sampling
  · exact registry.trans equipped.registered
  · exact all.cache.trans cache
  · exact all.strategies.trans strategies
  · rw [probes, Context.strategyOf, (Equips.registerSensors sensing).strategies]
    exact congrArg (fun table => probesUnder (StrategyTable.strategyOf table _)) strategies
  · exact (congrArg World.board all.data).trans board

/-- Every scenario can be set up. -/
theorem prepare_succeeds (scenario : Scenario) (settings : Settings) :
    ∃ prepared, prepare scenario settings = .ok prepared ∧ Unused prepared := by
  rcases prepare_prepared scenario settings with ⟨prepared, made, found⟩
  exact ⟨prepared, made, found.toUnused⟩

theorem prepared_of_prepare {scenario : Scenario} {settings : Settings} {prepared : State}
    (made : prepare scenario settings = .ok prepared) : Prepared scenario settings prepared := by
  rcases prepare_prepared scenario settings with ⟨same, succeeds, found⟩
  rw [made] at succeeds
  cases succeeds
  exact found

theorem prepare_unused {scenario : Scenario} {settings : Settings} {prepared : State}
    (made : prepare scenario settings = .ok prepared) : Unused prepared :=
  (prepared_of_prepare made).toUnused

end Simulation

end Vigil
