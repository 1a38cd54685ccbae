import Vigil.Proofs.Simulation.Cascade
import Vigil.Proofs.Simulation.Service

/-!
# Every run ends

A run is a cascade from its first moment to its last, and so is each of its phases: a phase begins
where no notification is running, and it ends there.
-/

namespace Vigil.Simulation

/-! ## Between the phases -/

theorem Phase.run_cascade (phase : Phase) (state : State) :
    let recording := (phase.run : Recorded Unit).run state
    Cascade cascadeLimit state recording.moments recording.final := by
  let relation := balanced state.data.depth cascadeLimit
  have top := notify_balanced state.data.depth cascadeLimit
  have run : relation.Holds phase.run phase.run := by
    cases phase with
    | activation controller =>
        exact relation.holds_bind (relation.activate top controller) fun _ => relation.holds_pure ()
    | step step => exact relation.runStep top step
  exact (run state rfl).2

theorem Phase.depth_next (phase : Phase) (state : State) :
    (phase.next state).data.depth = state.data.depth := by
  rw [Phase.next_eq]
  exact (phase.run_cascade state).depth_eq

theorem Scenario.depth_stateAfter (scenario : Scenario) (phases : List Phase) (prepared : State) :
    (scenario.stateAfter phases prepared).data.depth = prepared.data.depth := by
  rw [scenario.stateAfter_eq]
  refine List.foldlRecOn (motive := fun state : State => state.data.depth = prepared.data.depth)
    _ _ rfl ?_
  rintro state level phase -
  exact (phase.depth_next state).trans level

theorem Scenario.stateAfter_append (scenario : Scenario) (earlier later : List Phase)
    (prepared : State) :
    scenario.stateAfter (earlier ++ later) prepared =
      later.foldl Phase.next (scenario.stateAfter earlier prepared) :=
  List.foldl_append

/-! ## Outcomes -/

theorem runSteps_outcome (earlier later : List Step) (step : Step) (state : State) :
    ((runSteps (earlier ++ step :: later) : Action (List StepOutcome)).run
      state).1[earlier.length]? =
        some ⟨step.describe,
          (((earlier ++ [step]).map Phase.step).foldl Phase.next state).data.board.flags⟩ := by
  induction earlier generalizing state with
  | nil => rfl
  | cons first rest induction => exact induction (Phase.next state (.step first))

theorem runScenario_steps (scenario : Scenario) (prepared : State) :
    ((runScenario scenario : Action Report).run prepared).1.steps =
      ((runSteps scenario.steps : Action (List StepOutcome)).run
        (scenario.stateAfter (scenario.controllers.map .activation) prepared)).1 := by
  rw [Scenario.stateAfter, ← activateAll_run]
  rfl

/-! ## Runs -/

theorem runScenario_cascade (scenario : Scenario) (prepared : State) :
    let recording := (runScenario scenario : Recorded Report).run prepared
    Cascade cascadeLimit prepared recording.moments recording.final :=
  ((balanced prepared.data.depth cascadeLimit).runScenario
    (notify_balanced prepared.data.depth cascadeLimit) scenario prepared rfl).2

theorem runScenario_recorded (scenario : Scenario) (prepared : State) :
    let recording := (runScenario scenario : Recorded Report).run prepared
    (runScenario scenario : Action Report).run prepared = (recording.result, recording.final) := by
  rw [← Recorded.toPlain.runScenario]
  rfl

/--
Every scenario can be set up and run, under all settings.  A run ends with one outcome for each
step, in the order of the steps.  At none of its moments are more than `cascadeLimit` notifications
dispatched inside one another, and none is running before, between and after its phases.  This is
so although notifications only count how deep they are nested: there is one way to do that, and it
is the way of `notifyTop`.
-/
theorem every_run_ends (scenario : Scenario) (settings : Settings) :
    (∃ prepared, prepare scenario settings = .ok prepared ∧
      let recording := (runScenario scenario : Recorded Report).run prepared
      let after := fun phases => scenario.stateAfter phases prepared
      run scenario settings = .ok (recording.result, recording.final) ∧
      recording.result.steps.length = scenario.steps.length ∧
      (∀ earlier step later, scenario.steps = earlier ++ step :: later →
        let phases := scenario.controllers.map .activation ++ (earlier ++ [step]).map .step
        recording.result.steps[earlier.length]? =
          some ⟨step.describe, (after phases).data.board.flags⟩) ∧
      Cascade cascadeLimit prepared recording.moments recording.final ∧
      (∀ earlier later, scenario.phases = earlier ++ later → (after earlier).data.depth = 0) ∧
      recording.final = scenario.close (after scenario.phases) ∧
      recording.final.data.depth = 0) ∧
    ∃ counted : Notifier Recorded,
      (∀ notify, notify = counting notify ↔ notify = counted) ∧
      ∀ names start, start.data.depth = 0 →
        (notifyTop names : Recorded Unit).run start = (counted names).run start := by
  constructor
  · rcases prepare_succeeds scenario settings with ⟨prepared, made, unused⟩
    have recorded := runScenario_recorded scenario prepared
    have ended := runScenario_run scenario prepared
    have steps := runScenario_steps scenario prepared
    have cascade := runScenario_cascade scenario prepared
    rw [recorded] at ended steps
    refine ⟨prepared, made, ?ran, ?count, ?outcomes, cascade, ?between, ended, ?last⟩
    case ran =>
      rw [run, made, ← recorded]
      rfl
    case count => rw [steps, length_runSteps]
    case outcomes =>
      intro earlier step later listed phases
      rw [steps, listed, runSteps_outcome, ← scenario.stateAfter_append]
    case between =>
      intro earlier _ _
      rw [scenario.depth_stateAfter, unused.level]
    case last => rw [cascade.depth_eq, unused.level]
  · refine ⟨notifyWithin, fun notify => ⟨eq_notifyWithin, ?_⟩, ?_⟩
    · rintro rfl
      exact notifyWithin_eq_counting
    · intro names start level
      rw [notifyWithin_run, level]
      rfl

end Vigil.Simulation
