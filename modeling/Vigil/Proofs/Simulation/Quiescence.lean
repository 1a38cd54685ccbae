import Vigil.Proofs.Simulation.Service

/-!
# Controllers are in force when a phase is over

A phase may begin with what changes no flag: a controller is subscribed, or a counter is raised.
What follows settles.  So if a flag changes during a phase, and nothing is dropped, then all who
watch the flags are obeyed at its end, however the controllers have set each other off.
-/

namespace Vigil.Simulation

variable {α : Type} {looked : Active → Prop} {start middle : State}

/-- From the middle on an action settles, and before it no flag changes. -/
def SettlesFrom (middle start : State) (recording : Recording α) : Prop :=
  ∃ early late,
    recording.moments = early ++ late ∧
      Silent start ⟨(), middle, early⟩ ∧
        Settling (fun _ => False) middle ⟨recording.result, recording.final, late⟩

namespace SettlesFrom

theorem of_settling {recording : Recording α} (settling : Settling looked start recording) :
    SettlesFrom start start recording :=
  ⟨[], recording.moments, rfl, ⟨⟨nofun, rfl⟩, rfl⟩, settling.weaken nofun⟩

theorem bind {β : Type} {action : Recorded α} {next : α → Recorded β}
    (silent : Silent start (action.run start))
    (settling : Settling (fun _ => False) (action.run start).final
      ((next (action.run start).result).run (action.run start).final)) :
    SettlesFrom (action.run start).final start ((action >>= next).run start) := by
  refine ⟨(action.run start).moments, _, rfl, ?_, settling⟩
  exact ⟨⟨silent.still.moments, silent.still.final⟩, silent.undropped⟩

/-- The result of an action may be left aside. -/
theorem discard {action : Recorded α} (settles : SettlesFrom middle start (action.run start)) :
    SettlesFrom middle start ((do let _ ← action : Recorded Unit).run start) := by
  rcases settles with ⟨early, late, moments, silent, settling⟩
  refine ⟨early, late, ?_, silent, settling.kept, ?_⟩
  · show (action.run start).moments ++ [] = early ++ late
    rw [List.append_nil, moments]
  · intro undropped
    rcases settling.settles undropped with ⟨still, obeyed⟩ | settled
    · exact .inl ⟨⟨still.moments, still.final⟩, obeyed⟩
    · exact .inr settled

variable {recording : Recording α} (settles : SettlesFrom middle start recording)
include settles

theorem kept : Kept middle recording.final := by
  rcases settles with ⟨early, late, moments, silent, settling⟩
  exact settling.kept

/-- A flag that changes leaves everything settled, unless a notification is dropped. -/
theorem settled
    (changed : ∃ moment ∈ recording.moments,
      moment.data.board.flags ≠ start.data.board.flags)
    (undropped : dropped recording.final = dropped start) : Settled recording.final := by
  rcases settles with ⟨early, late, moments, silent, settling⟩
  rcases settling.settles (undropped.trans silent.undropped.symm) with ⟨still, -⟩ | settled
  · -- A moment is before or after the middle, and no flag has changed on either side.
    rcases changed with ⟨moment, member, differs⟩
    refine absurd ?_ differs
    rw [moments] at member
    rcases List.mem_append.mp member with first | second
    · exact silent.still.moments moment first
    · exact (still.moments moment second).trans silent.still.final
  · exact settled

end SettlesFrom

/-! ## Each phase -/

section Phases

variable {registry : Registry host.Sensor} {phases : List Phase}
variable (serving : Serving registry phases start)
include serving

/-- Activating a controller settles from where it is subscribed. -/
theorem activate_settles (controller : Controller) :
    ∃ middle, Serving registry (phases ++ [.activation controller]) middle ∧
      SettlesFrom middle start ((activate controller : Recorded Bool).run start) := by
  rcases subscribeController_serving serving controller with ⟨subscribed, silent⟩
  refine ⟨_, subscribed, ?_⟩
  have top := notify_settles subscribed.consistent cascadeLimit
  rw [activate]
  refine .bind silent ?_
  cases ((subscribeController controller : Recorded _).run start).result with
  | error error => exact Recorded.Settles.before (.report _ _ _) (fun _ => .pure _) _ rfl
  | ok subscription =>
      have applied := applyController_settles top subscription.2
      refine Recorded.Settles.before (applied.weaken nofun) (fun outcome => ?_) _ rfl
      cases outcome with
      | ok => exact .before (.report _ _ _) fun _ => .pure _
      | error error =>
          exact .before (.report _ _ _) fun _ => .before (.report _ _ _) fun _ => .pure _

/-- A step settles from where its counter has changed, or from its beginning. -/
theorem runStep_settles (change : Step) :
    ∃ middle, Serving registry phases middle ∧
      SettlesFrom middle start ((runStep change : Recorded Unit).run start) := by
  have top := notify_settles serving.consistent cascadeLimit
  cases change with
  | setFlag flag => exact ⟨start, serving, .of_settling (setFlag_settles top flag start rfl)⟩
  | clearFlag flag => exact ⟨start, serving, .of_settling (clearFlag_settles top flag start rfl)⟩
  | addCounter counter amount =>
      -- The counter changes before anybody is notified, and conditions may look at it.
      let raise : Recorded Unit := changeBoard (·.addCounter counter amount)
      have raised : Silent start (raise.run start) := by
        refine ⟨⟨?_, rfl⟩, rfl⟩
        rintro moment (_ | ⟨_, ⟨⟩⟩)
        rfl
      have served : Serving registry phases (raise.run start).final := serving.of_same rfl rfl rfl
      refine ⟨_, served, .bind raised ?_⟩
      split
      · refine Recorded.Settles.look (fun state same => ?_) _ rfl
        split
        · exact (top _).weaken nofun state same
        · exact (top _).weaken nofun state same
      · exact .nothing () nofun
  | event name =>
      have fired := fireEvent_settles serving.consistent name
      exact ⟨start, serving, .of_settling (fired.before (fun _ => .pure ()) start rfl)⟩
  | tick =>
      have ticked := tick_settles serving.consistent
      exact ⟨start, serving, .of_settling (ticked.before (fun _ => .pure ()) start rfl)⟩

theorem Phase.run_settles (phase : Phase) :
    ∃ middle, Serving registry (phases ++ [phase]) middle ∧
      SettlesFrom middle start ((phase.run : Recorded Unit).run start) := by
  cases phase with
  | activation controller =>
      rcases activate_settles serving controller with ⟨middle, served, settles⟩
      exact ⟨middle, served, settles.discard⟩
  | step change =>
      rcases runStep_settles serving change with ⟨middle, served, settles⟩
      exact ⟨middle, served.concat_step change, settles⟩

theorem Serving.next (phase : Phase) :
    Serving registry (phases ++ [phase]) (phase.next start) := by
  rcases phase.run_settles serving with ⟨middle, served, settles⟩
  rw [Phase.next_eq]
  exact served.of_kept settles.kept

end Phases

theorem Serving.foldl {registry : Registry host.Sensor} {before : List Phase} {state : State}
    (serving : Serving registry before state) (phases : List Phase) :
    Serving registry (before ++ phases) (phases.foldl Phase.next state) := by
  induction phases generalizing before state with
  | nil =>
      rw [List.append_nil]
      exact serving
  | cons phase rest induction =>
      rw [List.append_cons]
      exact induction (serving.next phase)

/-! ## Every run -/

theorem Scenario.stateAfter_serving {scenario : Scenario} {settings : Settings} {prepared : State}
    (made : prepare scenario settings = .ok prepared) (phases : List Phase) :
    Serving prepared.registry (scenario.seeding ++ phases)
      (scenario.stateAfter phases prepared) := by
  rw [scenario.stateAfter_eq]
  exact (prepare_unused made).serving.foldl (scenario.seeding ++ phases)

/-- Where all is settled, a controller that mentions the flags is in force if it is true. -/
theorem Serving.inForce {registry : Registry host.Sensor} {phases : List Phase} {state : State}
    (serving : Serving registry phases state) (settled : Settled state)
    {controller : Controller} (activated : .activation controller ∈ phases)
    {expression : Expression} (read : Expression.parse controller.condition = .ok expression)
    (checked : expression.tree.check registry = .ok ())
    {name : String} (flagged : name ∈ flagFunctions) (mentioned : name ∈ expression.functionNames)
    {value : Value}
    (evaluated : ((Context.evaluate runSensor expression :
      Action (Except EvalError Value)).run state).1 = .ok value)
    (truth : value.isTrue = true) : controller.InForce state.data.board := by
  rcases serving.served controller activated expression read checked name mentioned with
    ⟨same, member, watching⟩
  rw [List.mem_singleton.mp member] at watching
  rw [evaluate_run] at evaluated
  exact settled ⟨controller, expression⟩ ⟨name, flagged, watching⟩ value evaluated truth

/--
Every run goes through its phases.  If a flag changes at any moment of a phase, and no notification
is dropped in it, then every controller activated so far whose condition compiles, mentions the
flags and is true in the state at the end of the phase is in force in that state.
-/
theorem controllers_in_force_after_phase
    {scenario : Scenario} {settings : Settings} {prepared : State}
    (made : prepare scenario settings = .ok prepared)
    {earlier later : List Phase} {phase : Phase}
    (listed : scenario.phases = earlier ++ phase :: later) :
    (∃ report, run scenario settings =
      .ok (report, scenario.close (later.foldl Phase.next
        (scenario.stateAfter (earlier ++ [phase]) prepared)))) ∧
    let begun := scenario.stateAfter earlier prepared
    let recording := (phase.run : Recorded Unit).run begun
    scenario.stateAfter (earlier ++ [phase]) prepared = recording.final ∧
    ((∃ moment ∈ recording.moments, moment.data.board.flags ≠ begun.data.board.flags) →
      dropped recording.final = dropped begun →
      ∀ controller, .activation controller ∈ earlier ++ [phase] →
      ∀ expression, Expression.parse controller.condition = .ok expression →
        expression.tree.check prepared.registry = .ok () →
        "flag" ∈ expression.functionNames ∨ "flagCount" ∈ expression.functionNames →
      ∀ value,
        ((Context.evaluate runSensor expression :
          Action (Except EvalError Value)).run recording.final).1 = .ok value →
        value.isTrue = true →
          controller.InForce recording.final.data.board) := by
  have ended := scenario.stateAfter_concat earlier phase prepared
  rw [Phase.next_eq] at ended
  refine ⟨?_, ended, ?_⟩
  · rcases run_of_prepared made with ⟨report, ran⟩
    refine ⟨report, ?_⟩
    rw [ran, listed, List.append_cons, Scenario.stateAfter, List.foldl_append]
    rfl
  · intro changed undropped controller activated expression read checked mentioned value evaluated
      truth
    have begun := Scenario.stateAfter_serving made earlier
    -- All are subscribed by the middle of the phase, and what follows keeps the subscriptions.
    rcases phase.run_settles begun with ⟨middle, served, settles⟩
    have final := served.of_kept settles.kept
    rw [List.append_assoc] at final
    have settled := settles.settled changed undropped
    have since := List.mem_append_right scenario.seeding activated
    rcases mentioned with flag | flagCount
    · exact final.inForce settled since read checked (.head _) flag evaluated truth
    · exact final.inForce settled since read checked (.tail _ (.head _)) flagCount evaluated truth

/-- A controller that hands one flag on to another. -/
def relay : Controller where
  condition := "flag('a')"
  flag := "b"
  mode := .set

/-- What the relay waits for. -/
def relayCondition : Expression where
  source := "flag('a')"
  tree := .call "flag" [.literal (.text "a")] ⟨0, 9⟩

/-- The first flag is set before the relay is activated. -/
def relayScenario : Scenario where
  flags := ["a"]
  counters := []
  events := []
  controllers := [relay]
  steps := []

def relayPrepared : State :=
  (prepare relayScenario .default).toOption.getD (.new 0 .empty .empty ⟨.empty, 0⟩)

theorem relay_made : prepare relayScenario .default = .ok relayPrepared := by
  have succeeds : (prepare relayScenario .default).isOk = true := by decide +kernel
  rw [relayPrepared]
  cases made : prepare relayScenario .default with
  | ok prepared => rfl
  | error error =>
      rw [made] at succeeds
      cases succeeds

theorem relay_read : Expression.parse relay.condition = .ok relayCondition := by
  have scanned :
      (Token.scan relay.condition).toOption =
        some
          [⟨.function, "flag", ⟨0, 4⟩⟩, ⟨.leftParen, "(", ⟨4, 5⟩⟩, ⟨.string, "a", ⟨5, 8⟩⟩,
            ⟨.rightParen, ")", ⟨8, 9⟩⟩] := by
    decide +kernel
  apply Expression.parse_of_scan scanned
  simp [Tree.ofTokens, Tree.ofTier, Tree.ofChain, Tree.ofOperand, Tree.ofPrimary, Tree.ofArguments,
    Tree.literalValue, Token.unary?, Token.binaryOf?, BinaryOp.loosest, maxNesting]

theorem relay_checked : relayCondition.tree.check relayPrepared.registry = .ok () :=
  eq_ok_of_toOption (by decide +kernel)

theorem relay_subscribed :
    (subscribeController relay : Recorded _).run (relayScenario.stateAfter [] relayPrepared) =
      ⟨.ok (1, ⟨relay, relayCondition⟩),
        subscribed (relayScenario.stateAfter [] relayPrepared) relay relayCondition,
        [((relayScenario.stateAfter [] relayPrepared).parse relay.condition).2,
          subscribed (relayScenario.stateAfter [] relayPrepared) relay relayCondition]⟩ := by
  have serving := Scenario.stateAfter_serving relay_made []
  have first : (relayScenario.stateAfter [] relayPrepared).watcher.nextId = 1 := by decide +kernel
  have checked := relay_checked
  rw [← serving.registered] at checked
  rcases Context.compile_of_checked serving.cached relay_read checked with ⟨number, compiled⟩
  rw [subscribeController_run serving.loaded relay_read compiled, Watcher.subscribe_id, first]

theorem controllers_in_force_after_phase_relay :
    prepare relayScenario .default = .ok relayPrepared ∧
      relay.InForce (relayScenario.stateAfter [.activation relay] relayPrepared).data.board := by
  have phase := @controllers_in_force_after_phase relayScenario .default relayPrepared relay_made
    [] [] (.activation relay) rfl
  rcases phase with ⟨-, ended, inForce⟩
  rw [Phase.run, activate,
    Recorded.run_bind (Recorded.run_bind relay_subscribed _)] at ended inForce
  rw [List.nil_append] at ended
  refine ⟨relay_made, ?_⟩
  rw [ended]
  refine inForce ?changed ?undropped relay (.head _) relayCondition relay_read relay_checked
    (.inl ?mentioned) (.boolean true) ?evaluated rfl
  case changed => decide +kernel
  case undropped => decide +kernel
  case mentioned => decide +kernel
  case evaluated =>
    rw [evaluate_run]
    exact eq_ok_of_toOption (by decide +kernel)

end Vigil.Simulation
