import Mathlib.Algebra.Group.Nat.Defs
import Vigil.Proofs.Number.Exact
import Vigil.Proofs.Simulation.Chains
import Vigil.Proofs.Simulation.Seeding
import Vigil.Proofs.Simulation.Twins
import Vigil.Proofs.Value.Sameness

/-!
# Polling with enough ticks

The sum of the counters may be pushed, so that whoever raises a counter also notifies those who
watch the sum, or polled, so that they are notified at the next tick.  With a tick after every
change of a counter the two come to the same.  One step of the pushed run is matched by two of the
polled one: what is notified after the counter in the first is what the tick finds changed in the
second.  The tick has the room of one more notification, which only matters where notifications are
dropped.
-/

namespace Vigil.Simulation

/-! ## Samples -/

/-- Sums that are exact and differ are no samples that are the same. -/
theorem integer_changed {before amount : Int} (nonzero : amount ≠ 0)
    (small : before.natAbs ≤ 2 ^ 53) (small' : (before + amount).natAbs ≤ 2 ^ 53) :
    (BoardSensor.integer before).sameAs (BoardSensor.integer (before + amount)) = false := by
  refine Bool.eq_false_iff.mpr fun same => nonzero ?_
  have position : (Number.ofInt before).position = (Number.ofInt (before + amount)).position := by
    rcases Value.eq_or_numbers_of_sameAs same with equal | ⟨left, right, first, second, position⟩
    · exact congrArg Number.position (Value.number.inj equal)
    · rw [Value.number.inj first, Value.number.inj second, position]
  have equal := Number.eq_of_position_ofInt small small' position
  omega

/-- The only probe finds a change. -/
theorem observe_alone {poller : Poller host.Probe} {probe : Probe host.Probe} {sample : Value}
    (alone : poller.probes = [probe]) (changed : probe.changedBy sample = true) :
    poller.observe probe.name sample =
      (true, { poller with probes := [{ probe with last? := some sample }] }) := by
  have found : [probe].find? (·.name == probe.name) = some probe := by simp
  rw [Poller.observe, alone, found]
  simp [changed]

/-- A state where the probe of the sum has just found a sample. -/
def sampled (sample : Value) (state : State) : State :=
  let probes := [⟨BoardSensor.counterTotal.name, .counterTotal, some sample⟩]
  { state with poller := { state.poller with probes } }.log .trace "polled value changed"
    [("sensor", BoardSensor.counterTotal.name), ("value", sample.display)]

section Tick

variable {counters : Table String Int} {last? : Option Value} {pushed polled : State}
variable (twins : Twins counters last? pushed polled)
include twins

theorem Twins.sampled (sample : Value) :
    Twins counters (some sample) pushed (sampled sample polled) :=
  { twins with probes := rfl }

/-- A tick that finds another sum than the one before touches those who watch it. -/
theorem Twins.tick_run
    (changed : ∀ last, last? = some last →
      last.sameAs (BoardSensor.integer polled.data.board.counterTotal) = false)
    (callback : host.Callback → Action Outcome) :
    ((Context.tick runProbe callback).run polled).2 =
      ((Context.touch callback BoardSensor.counterTotal.name).run
        (Simulation.sampled (BoardSensor.integer polled.data.board.counterTotal) polled)).2 := by
  let sample := BoardSensor.integer polled.data.board.counterTotal
  let probe : Probe host.Probe := ⟨BoardSensor.counterTotal.name, .counterTotal, last?⟩
  have differs : probe.changedBy sample = true := by
    cases last? with
    | none => rfl
    | some last => exact congrArg Bool.not (changed last rfl)
  have sampling : (Context.sampleAll runProbe polled.poller.probes : Action _).run polled =
      ([(probe.name, sample)], polled) := by
    rw [twins.probes]
    rfl
  have observed : polled.observeAll [(probe.name, sample)] =
      ([probe.name], Simulation.sampled sample polled) := by
    rw [Context.observeAll, Poller.observeAll, observe_alone twins.probes differs]
    rfl
  let touching (observed : List String × State) : State :=
    ((Context.touchAll callback observed.1).run observed.2).2
  let comparing (sampled : List (String × Value) × State) : State :=
    touching (sampled.2.observeAll sampled.1)
  calc ((Context.tick runProbe callback).run polled).2
    _ = comparing ((Context.sampleAll runProbe polled.poller.probes : Action _).run polled) := rfl
    _ = touching (polled.observeAll [(probe.name, sample)]) := congrArg comparing sampling
    _ = touching ([probe.name], Simulation.sampled sample polled) := congrArg touching observed

end Tick

/-! ## Steps -/

/-- What a step adds to the sum of the counters. -/
def Step.amount : Step → Int
  | addCounter _ amount => amount
  | setFlag _ | clearFlag _ | event _ | tick => 0

/-- A step, and a tick after it if it is a change of a counter. -/
def Step.ticked : Step → List Step
  | .addCounter counter amount => [.addCounter counter amount, .tick]
  | step => [step]

/--
The states after a step of the pushed run and after what matches it in the polled one.  This is the
sum of the counters, and what the probe has found last if it has found anything.
-/
structure Synchronized (total : Int) (pushed polled : State) : Prop where
  sum : pushed.data.board.counterTotal = total
  twins : ∃ last?, Twins pushed.data.board.counters last? pushed polled ∧
    ∀ last, last? = some last → last = BoardSensor.integer total

theorem addCounter_run {notify : Notifier Action} {amount : Int} (nonzero : amount ≠ 0)
    (name : String) (state : State) :
    (addCounter notify name amount : Action Unit).run state =
      (notify ((Mutation.addCounter name amount).touched state)).run
        { state with
          data := { state.data with board := state.data.board.addCounter name amount } } := by
  have some : (Mutation.addCounter name amount).touched state ≠ [] := by
    rw [Mutation.touched, if_neg nonzero]
    split <;> exact List.cons_ne_nil _ _
  have ran := (Mutation.addCounter name amount).run_eq notify state
  rw [if_neg some] at ran
  exact ran

/-- The notification of one function in a notification of several. -/
def beginning (name : String) : Action Unit := do
  changeDepth (· + 1)
  touchNoting (runController (notify (cascadeLimit - 1))) [name]

/-- The notification of the last function. -/
def ending (name : String) : Action Unit := do
  touchNoting (runController (notify (cascadeLimit - 1))) [name]
  changeDepth (· - 1)

theorem notifyTop_one_run (name : String) (state : State) :
    ((notifyTop [name] : Action Unit).run state).2 =
      ((changeDepth (· - 1) : Action Unit).run ((beginning name).run state).2).2 := by
  rw [notifyTop, notify_of_pos (by decide)]
  rfl

theorem notifyTop_two_run (first second : String) (state : State) :
    ((notifyTop [first, second] : Action Unit).run state).2 =
      ((ending second).run ((beginning first).run state).2).2 := by
  rw [notifyTop, notify_of_pos (by decide)]
  rfl

theorem beginning_together {counters : Table String Int} {last? : Option Value} (name : String) :
    Together counters last? (beginning name) (beginning name) := by
  have serves := (together counters last?).serves .changeBoard
    (notify_together (cascadeLimit - 1))
  exact .bind (.changeDepth _) fun _ => (together counters last?).touchNoting serves [name]

theorem beginning_unhindered (name : String) : Unhindered (beginning name) (beginning name) := by
  have serves := moreRoom.serves (fun change _ => .changeBoard change)
    (notify_unhindered (Nat.le_refl (cascadeLimit - 1)))
  exact .bind (.changeDepth _) fun _ => moreRoom.touchNoting serves [name]

theorem ending_unhindered (name : String) : Unhindered (ending name) (ending name) := by
  have serves := moreRoom.serves (fun change _ => .changeBoard change)
    (notify_unhindered (Nat.le_refl (cascadeLimit - 1)))
  exact .bind (moreRoom.touchNoting serves [name]) fun _ => .changeDepth _

/-- The last part of a notification comes to what a tick does that finds the sum changed. -/
theorem Twins.ending_run {counters : Table String Int} {last? : Option Value}
    {pushed polled : State} (twins : Twins counters last? pushed polled)
    (changed : ∀ last, last? = some last →
      last.sameAs (BoardSensor.integer pushed.data.board.counterTotal) = false)
    (undropped : dropped ((ending BoardSensor.counterTotal.name).run pushed).2 = dropped pushed) :
    Twins counters (some (BoardSensor.integer pushed.data.board.counterTotal))
      ((ending BoardSensor.counterTotal.name).run pushed).2
      ((Context.tick runProbe runControllerTop : Action (List String)).run polled).2 := by
  let sample := BoardSensor.integer pushed.data.board.counterTotal
  let inside : Action TouchReport :=
    Context.touch (runController (notify (cascadeLimit - 1))) BoardSensor.counterTotal.name
  let outside : Action TouchReport :=
    Context.touch runControllerTop BoardSensor.counterTotal.name
  -- There is room for one more notification outside, so what is not dropped is the same.
  have wider : Unhindered inside outside :=
    moreRoom.touch (moreRoom.serves (fun change _ => .changeBoard change)
      (notify_unhindered (Nat.sub_le cascadeLimit 1))) BoardSensor.counterTotal.name
  rcases wider pushed with ⟨least, same⟩
  have most : dropped (inside.run pushed).2 ≤
      dropped ((ending BoardSensor.counterTotal.name).run pushed).2 :=
    (Kept.log _ _ _ _).dropped
  have equal : outside.run pushed = inside.run pushed := same (by omega)
  have serves := (together counters (some sample)).serves .changeBoard
    (notify_together cascadeLimit)
  have touched : Twins counters (some sample) (outside.run pushed).2 (outside.run _).2 :=
    ((together counters (some sample)).touch serves _ pushed _ (twins.sampled sample)).2
  rw [equal] at touched
  have compared : ∀ last, last? = some last →
      last.sameAs (BoardSensor.integer polled.data.board.counterTotal) = false := by
    rw [twins.board]
    exact changed
  rw [twins.tick_run compared, twins.board]
  exact { touched with }

namespace Synchronized

variable {total : Int} {pushed polled : State}

/-- What leads from twins to twins changes no counter. -/
theorem together {α : Type} {action other : Action α}
    (together : ∀ counters last?, Together counters last? action other)
    (synchronized : Synchronized total pushed polled) :
    Synchronized total (action.run pushed).2 (other.run polled).2 := by
  rcases synchronized.twins with ⟨last?, twins, found⟩
  have after := (together _ last? pushed polled twins).2
  refine ⟨?_, last?, ?_, found⟩
  · rw [← synchronized.sum, Board.counterTotal, Board.counterTotal, after.counters]
  · rw [after.counters]
    exact after

/-- The tick does what is left of the notification. -/
theorem addCounter (synchronized : Synchronized total pushed polled) {amount : Int}
    (nonzero : amount ≠ 0) (small : total.natAbs ≤ 2 ^ 53)
    (small' : (total + amount).natAbs ≤ 2 ^ 53) (name : String)
    (undropped :
      dropped ((Simulation.addCounter notifyTop name amount : Action Unit).run pushed).2 =
        dropped pushed) :
    Synchronized (total + amount)
      ((Simulation.addCounter notifyTop name amount : Action Unit).run pushed).2
      ((Context.tick runProbe runControllerTop : Action (List String)).run
        ((Simulation.addCounter notifyTop name amount : Action Unit).run polled).2).2 := by
  rcases synchronized.twins with ⟨last?, twins, found⟩
  let raised (state : State) : State :=
    { state with data := { state.data with board := state.data.board.addCounter name amount } }
  let counters := (raised pushed).data.board.counters
  have raising : Twins counters last? (raised pushed) (raised polled) :=
    { twins with board := congrArg (·.addCounter name amount) twins.board, counters := rfl }
  let middle (state : State) : State :=
    ((beginning BoardSensor.counter.name).run (raised state)).2
  have polls : polled.strategyOf BoardSensor.counterTotal.name ≠ .push := by
    rw [twins.poll]
    nofun
  have pushing : ((Simulation.addCounter notifyTop name amount : Action Unit).run pushed).2 =
      ((ending BoardSensor.counterTotal.name).run (middle pushed)).2 := by
    rw [addCounter_run nonzero, Mutation.touched, if_neg nonzero, if_pos twins.push,
      notifyTop_two_run]
  have polling : ((Simulation.addCounter notifyTop name amount : Action Unit).run polled).2 =
      ((changeDepth (· - 1) : Action Unit).run (middle polled)).2 := by
    rw [addCounter_run nonzero, Mutation.touched, if_neg nonzero, if_neg polls, notifyTop_one_run]
  rw [pushing] at undropped
  rw [pushing, polling]
  have between : Twins counters last? (middle pushed)
      ((changeDepth (· - 1) : Action Unit).run (middle polled)).2 :=
    { (beginning_together _ _ _ raising).2 with }
  -- Those who watch the counter have been notified in both, and changed no counter.
  have sum : (middle pushed).data.board.counterTotal = total + amount := by
    rw [Board.counterTotal, between.counters, ← synchronized.sum]
    exact pushed.data.board.counterTotal_addCounter name amount
  have least : dropped pushed ≤ dropped (middle pushed) :=
    (beginning_unhindered BoardSensor.counter.name (raised pushed)).1
  have most : dropped (middle pushed) ≤
      dropped ((ending BoardSensor.counterTotal.name).run (middle pushed)).2 :=
    (ending_unhindered BoardSensor.counterTotal.name (middle pushed)).1
  have ended := between.ending_run ?changed (by omega)
  case changed =>
    rintro last sampled
    rw [found last sampled, sum]
    exact integer_changed nonzero small small'
  rw [sum] at ended
  refine ⟨?_, _, ?_, fun _ sampled => (Option.some.inj sampled).symm⟩
  · rw [Board.counterTotal, ended.counters, ← between.counters]
    exact sum
  · rw [ended.counters]
    exact ended

/-- One step of the pushed run is matched by one or two of the polled one. -/
theorem step (synchronized : Synchronized total pushed polled) {step : Step}
    (tickless : step ≠ .tick) (raising : ∀ counter, step ≠ .addCounter counter 0)
    (small : total.natAbs ≤ 2 ^ 53) (small' : (total + step.amount).natAbs ≤ 2 ^ 53)
    (undropped : dropped (Phase.next pushed (.step step)) = dropped pushed) :
    Synchronized (total + step.amount) (Phase.next pushed (.step step))
      ((step.ticked.map Phase.step).foldl Phase.next polled) := by
  let next := Phase.next pushed (.step step)
  have unchanged {state : State} (steady : Synchronized total next state) :
      Synchronized (total + 0) next state := by
    rw [Int.add_zero]
    exact steady
  have top := fun counters last? =>
    @notify_together counters last? cascadeLimit
  cases step with
  | setFlag flag =>
      exact unchanged (synchronized.together fun counters last? =>
        (Simulation.together counters last?).setFlag .changeBoard (top counters last?) flag)
  | clearFlag flag =>
      exact unchanged (synchronized.together fun counters last? =>
        (Simulation.together counters last?).clearFlag .changeBoard (top counters last?) flag)
  | addCounter counter amount =>
      have nonzero : amount ≠ 0 := by
        rintro rfl
        exact raising counter rfl
      exact synchronized.addCounter nonzero small small' counter undropped
  | event name =>
      refine unchanged (synchronized.together (fun counters last? => ?_))
      let relation := Simulation.together counters last?
      have serves := relation.serves .changeBoard (top counters last?)
      exact .bind (relation.fireEvent serves name) fun _ => relation.holds_pure ()
  | tick => exact absurd rfl tickless

theorem steps (synchronized : Synchronized total pushed polled) {steps : List Step}
    (tickless : .tick ∉ steps) (raising : ∀ counter, .addCounter counter 0 ∉ steps)
    (small : ∀ earlier, earlier <+: steps →
      (total + (earlier.map Step.amount).sum).natAbs ≤ 2 ^ 53)
    (undropped : dropped ((steps.map Phase.step).foldl Phase.next pushed) = dropped pushed) :
    Synchronized (total + (steps.map Step.amount).sum)
      ((steps.map Phase.step).foldl Phase.next pushed)
      (((steps.flatMap Step.ticked).map Phase.step).foldl Phase.next polled) := by
  induction steps generalizing total pushed polled with
  | nil =>
      rw [List.map_nil, List.sum_nil, Int.add_zero]
      exact synchronized
  | cons step rest induction =>
      -- The journal only grows, so neither the first step nor those after it drop anything.
      have least := (Phase.step step).dropped_le_next pushed
      have most := dropped_le_foldl_next (rest.map .step) (Phase.next pushed (.step step))
      rw [List.map_cons, List.foldl_cons] at undropped
      have first := synchronized.step (fun same => tickless (same ▸ List.mem_cons_self))
        (fun counter same => raising counter (same ▸ List.mem_cons_self))
        (by simpa using small [] (List.nil_prefix))
        (by simpa using small [step] ⟨rest, rfl⟩) (by omega)
      have others := induction first (fun member => tickless (List.mem_cons_of_mem _ member))
        (fun counter member => raising counter (List.mem_cons_of_mem _ member)) ?_ (by omega)
      · rw [List.map_cons, List.sum_cons, ← Int.add_assoc, List.flatMap_cons, List.map_append,
          List.foldl_append]
        exact others
      · rintro earlier ⟨later, rfl⟩
        have bound := small (step :: earlier) ⟨later, rfl⟩
        rw [List.map_cons, List.sum_cons, ← Int.add_assoc] at bound
        exact bound

theorem activations (synchronized : Synchronized total pushed polled)
    (controllers : List Controller) :
    Synchronized total ((controllers.map Phase.activation).foldl Phase.next pushed)
      ((controllers.map Phase.activation).foldl Phase.next polled) := by
  induction controllers generalizing pushed polled with
  | nil => exact synchronized
  | cons controller rest induction =>
      exact induction (synchronized.together fun _ _ => activation_together controller)

theorem flags (synchronized : Synchronized total pushed polled) :
    polled.data.board.flags = pushed.data.board.flags := by
  rcases synchronized.twins with ⟨last?, twins, -⟩
  rw [twins.board]

end Synchronized

/-! ## Runs -/

/-- A scenario with a tick after every change of a counter. -/
def Scenario.ticked (scenario : Scenario) : Scenario :=
  { scenario with steps := scenario.steps.flatMap Step.ticked }

/-- The sum of the counters after some steps of a scenario. -/
def Scenario.totalAfter (scenario : Scenario) (steps : List Step) : Int :=
  (scenario.counters.map Prod.snd).sum + (steps.map Step.amount).sum

theorem Scenario.totalAfter_nil_add (scenario : Scenario) (steps : List Step) :
    scenario.totalAfter [] + (steps.map Step.amount).sum = scenario.totalAfter steps := by
  simp [totalAfter]

/-- The phases up to some steps. -/
def Scenario.phasesOf (scenario : Scenario) (steps : List Step) : List Phase :=
  scenario.controllers.map .activation ++ steps.map .step

section Settings

variable {scenario : Scenario} {pushing polling : Settings}
variable (others : polling = { pushing with sensors := polling.sensors })
variable (push : pushing.strategyTable.strategyOf BoardSensor.counterTotal.name = .push)
variable (poll : polling.strategyTable.strategyOf BoardSensor.counterTotal.name = .poll)
include others push poll

theorem twins_of_prepared {pushed polled : State} (found : Prepared scenario pushing pushed)
    (found' : Prepared scenario.ticked polling polled) :
    Twins pushed.data.board.counters none pushed polled where
  registry := by
    have functions : functionsBefore polling = functionsBefore pushing := by
      rw [others]
      rfl
    rw [found.registered, found'.registered, functions]
  cache := by
    rw [found.cache, found'.cache, others]
  watcher := found'.watcher.trans found.watcher.symm
  events := by
    have bindings : boundEvents scenario.ticked polling = boundEvents scenario pushing := by
      rw [others]
      rfl
    rw [found.events, found'.events, bindings]
  board := found'.board.trans found.board.symm
  counters := rfl
  push := by
    rw [Context.strategyOf, found.strategies, push]
  poll := by
    rw [Context.strategyOf, found'.strategies, poll]
  probes := by
    rw [found'.probes, poll, probesUnder, if_pos rfl]

theorem seed_synchronized {pushed polled : State} (found : Prepared scenario pushing pushed)
    (found' : Prepared scenario.ticked polling polled) :
    Synchronized (scenario.totalAfter [])
      ((seed scenario.flags scenario.counters : Action Unit).run pushed).2
      ((seed scenario.flags scenario.counters : Action Unit).run polled).2 := by
  have twins := twins_of_prepared others push poll found found'
  rcases seed_unwatched found.watcher scenario with ⟨journal, ran⟩
  rcases seed_unwatched found'.watcher scenario with ⟨journal', ran'⟩
  rw [ran, ran']
  refine ⟨?_, none, ?_, fun _ sampled => nomatch sampled⟩
  · show (pushed.data.board.changed scenario.mutations).counterTotal = _
    rw [found.board, Board.counterTotal_changed, scenario.sum_mutations, Scenario.totalAfter]
    simp [Board.counterTotal, Board.empty, Table.empty]
  · exact { twins with
      board := congrArg (·.changed scenario.mutations) twins.board
      counters := rfl }

variable (tickless : .tick ∉ scenario.steps)
variable (raising : ∀ counter, .addCounter counter 0 ∉ scenario.steps)
variable (small : ∀ earlier, earlier <+: scenario.steps →
  (scenario.totalAfter earlier).natAbs ≤ 2 ^ 53)
include tickless raising small

/-- After some steps of the pushed run and what matches them in the polled one. -/
theorem stateAfter_synchronized {pushed polled : State} (found : Prepared scenario pushing pushed)
    (found' : Prepared scenario.ticked polling polled)
    (undropped : dropped ((runScenario scenario : Action Report).run pushed).2 = 0)
    {before later : List Step} (split : scenario.steps = before ++ later) :
    Synchronized (scenario.totalAfter before)
      (scenario.stateAfter (scenario.phasesOf before) pushed)
      (scenario.stateAfter (scenario.phasesOf (before.flatMap Step.ticked)) polled) := by
  let activated (start : State) : State :=
    scenario.stateAfter (scenario.controllers.map .activation) start
  have active : Synchronized (scenario.totalAfter []) (activated pushed) (activated polled) :=
    (seed_synchronized others push poll found found').activations scenario.controllers
  have included : before ⊆ scenario.steps := by
    rw [split]
    exact List.subset_append_left before later
  rw [Scenario.phasesOf, Scenario.phasesOf, scenario.stateAfter_append,
    scenario.stateAfter_append, ← scenario.totalAfter_nil_add]
  refine active.steps (fun member => tickless (included member))
    (fun counter member => raising counter (included member)) (fun part begins => ?_) ?_
  · rw [scenario.totalAfter_nil_add]
    exact small part (begins.trans ⟨later, split.symm⟩)
  · have phases : scenario.phases = scenario.phasesOf before ++ later.map .step := by
      rw [Scenario.phases, Scenario.phasesOf, split, List.map_append, List.append_assoc]
    have least := @dropped_le_run scenario _ (scenario.steps.map .step) rfl pushed
    have most := dropped_le_run phases pushed
    rw [undropped] at least most
    rw [Scenario.phasesOf, scenario.stateAfter_append] at most
    exact (Nat.le_zero.mp most).trans (Nat.le_zero.mp least).symm

end Settings

theorem runScenario_initialFlags (scenario : Scenario) (prepared : State) :
    ((runScenario scenario : Action Report).run prepared).1.initialFlags =
      (scenario.stateAfter (scenario.phasesOf []) prepared).data.board.flags := by
  rw [Scenario.phasesOf, List.map_nil, List.append_nil, Scenario.stateAfter, ← activateAll_run]
  rfl

/-- The flags are noted after every step. -/
theorem runScenario_flags {scenario : Scenario} {before later : List Step}
    (split : scenario.steps = before ++ later) (some : before ≠ []) (prepared : State) :
    ∃ outcome,
      ((runScenario scenario : Action Report).run prepared).1.steps[before.length - 1]? =
          .some outcome ∧
        outcome.flags =
          (scenario.stateAfter (scenario.phasesOf before) prepared).data.board.flags := by
  rcases List.eq_nil_or_concat' before with rfl | ⟨earlier, step, rfl⟩
  · exact absurd rfl some
  · rw [List.append_assoc] at split
    rw [runScenario_steps, split, List.length_append, List.length_singleton, Nat.add_sub_cancel,
      Scenario.phasesOf, scenario.stateAfter_append]
    exact ⟨_, runSteps_outcome earlier later step _, rfl⟩

/--
Polling the sum of the counters with a tick after every change agrees with pushing it.  If nothing
is dropped in the pushed run, then both runs show the same flags at first and after every step;
after a change of a counter it is the tick that shows them in the polled run.
-/
theorem polling_with_ticks_is_pushing {scenario : Scenario} {pushing polling : Settings}
    (others : polling = { pushing with sensors := polling.sensors })
    (push : pushing.strategyTable.strategyOf BoardSensor.counterTotal.name = .push)
    (poll : polling.strategyTable.strategyOf BoardSensor.counterTotal.name = .poll)
    (tickless : .tick ∉ scenario.steps)
    (raising : ∀ counter, .addCounter counter 0 ∉ scenario.steps)
    (small : ∀ earlier, earlier <+: scenario.steps →
      (scenario.totalAfter earlier).natAbs ≤ 2 ^ 53) :
    ∃ pushed polled : Report × State,
      run scenario pushing = .ok pushed ∧ run scenario.ticked polling = .ok polled ∧
      (dropped pushed.2 = 0 →
        polled.1.initialFlags = pushed.1.initialFlags ∧
        ∀ earlier step later, scenario.steps = earlier ++ step :: later →
          ∃ outcome outcome',
            pushed.1.steps[earlier.length]? = some outcome ∧
            polled.1.steps[((earlier ++ [step]).flatMap Step.ticked).length - 1]? =
              some outcome' ∧
            outcome'.flags = outcome.flags) := by
  rcases prepare_prepared scenario pushing with ⟨prepared, made, found⟩
  rcases prepare_prepared scenario.ticked polling with ⟨prepared', made', found'⟩
  refine ⟨(runScenario scenario : Action Report).run prepared,
    (runScenario scenario.ticked : Action Report).run prepared', ?_, ?_, fun undropped => ?_⟩
  · rw [run, made]
    rfl
  · rw [run, made']
    rfl
  have synchronized {before later : List Step} (split : scenario.steps = before ++ later) :=
    stateAfter_synchronized others push poll tickless raising small found found' undropped split
  constructor
  · rw [runScenario_initialFlags, runScenario_initialFlags]
    exact (synchronized (List.nil_append _).symm).flags
  · intro earlier step later listed
    have split : scenario.steps = (earlier ++ [step]) ++ later := by rw [listed, List.append_cons]
    have split' : scenario.ticked.steps =
        (earlier ++ [step]).flatMap Step.ticked ++ later.flatMap Step.ticked := by
      rw [← List.flatMap_append, ← split]
      rfl
    have some' : (earlier ++ [step]).flatMap Step.ticked ≠ [] := by
      cases step <;> simp [Step.ticked]
    rcases runScenario_flags split (by simp) prepared with ⟨outcome, noted, flags⟩
    rcases runScenario_flags split' some' prepared' with ⟨outcome', noted', flags'⟩
    rw [List.length_append, List.length_singleton, Nat.add_sub_cancel] at noted
    refine ⟨outcome, outcome', noted, noted', ?_⟩
    rw [flags, flags']
    exact (synchronized split).flags

/-- Two berries make the sum large enough for a flag. -/
def savings : Scenario where
  flags := []
  counters := []
  events := []
  controllers := [⟨"counterTotal() >= 2", "rich", .set⟩]
  steps := [.addCounter "berries" 2]

/-- The usual settings, but for the sum of the counters, which is polled. -/
def savingsPolled : Settings :=
  { Settings.default with sensors := [⟨"counterTotal", "poll"⟩] }

theorem polling_with_ticks_is_pushing_savings :
    savingsPolled = { Settings.default with sensors := savingsPolled.sensors } ∧
    Settings.default.strategyTable.strategyOf BoardSensor.counterTotal.name = .push ∧
    savingsPolled.strategyTable.strategyOf BoardSensor.counterTotal.name = .poll ∧
    .tick ∉ savings.steps ∧
    (∀ counter, .addCounter counter 0 ∉ savings.steps) ∧
    (∀ earlier, earlier <+: savings.steps → (savings.totalAfter earlier).natAbs ≤ 2 ^ 53) ∧
    ∃ pushed polled : Report × State,
      run savings .default = .ok pushed ∧ run savings.ticked savingsPolled = .ok polled ∧
      dropped pushed.2 = 0 ∧ polled.1.initialFlags = pushed.1.initialFlags ∧
      ∃ outcome outcome',
        pushed.1.steps[0]? = some outcome ∧ polled.1.steps[1]? = some outcome' ∧
        outcome'.flags = outcome.flags := by
  have push : Settings.default.strategyTable.strategyOf BoardSensor.counterTotal.name = .push :=
    rfl
  have poll : savingsPolled.strategyTable.strategyOf BoardSensor.counterTotal.name = .poll := by
    decide +kernel
  have tickless : .tick ∉ savings.steps := by decide
  have raising (counter : String) : .addCounter counter 0 ∉ savings.steps := by
    simp [savings]
  have small (earlier : List Step) (begins : earlier <+: savings.steps) :
      (savings.totalAfter earlier).natAbs ≤ 2 ^ 53 := by
    rcases List.prefix_cons_iff.mp begins with rfl | ⟨rest, rfl, none⟩
    · decide
    · rw [List.prefix_nil.mp none]
      decide
  have few : ["rich"].length < cascadeLimit := by decide
  rcases polling_with_ticks_is_pushing rfl push poll tickless raising small with
    ⟨pushed, polled, ran, ran', agree⟩
  rcases prepare_prepared savings .default with ⟨prepared, made, -⟩
  have uncut := runScenario_uncut made few ?setting
  case setting =>
    intro controller member _
    rw [List.mem_singleton.mp member]
    exact ⟨rfl, .head _⟩
  have undropped : dropped pushed.2 = 0 := by
    rw [run, made] at ran
    cases ran
    have recorded := congrArg Prod.snd (runScenario_recorded savings prepared)
    exact (congrArg dropped recorded).trans uncut.final.undropped
  rcases agree undropped with ⟨initial, steps⟩
  have noted := steps [] (.addCounter "berries" 2) [] rfl
  exact ⟨rfl, push, poll, tickless, raising, small, pushed, polled, ran, ran', undropped, initial,
    noted⟩

end Vigil.Simulation
