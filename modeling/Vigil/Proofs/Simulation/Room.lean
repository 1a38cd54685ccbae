import Vigil.Proofs.Simulation.Service

/-!
# More room for notifications

How much room there is for notifications inside others matters only where it runs out.  A
notification that finds no room is dropped, the journal says so, and the journal only grows; so
where it says nothing of the kind in the end, nothing was dropped on the way, and with more room the
same would have happened.
-/

namespace Vigil.Simulation

/-- An action undoes no drop, and if it drops nothing then another action comes to the same. -/
def Unhindered {α : Type} (action other : Action α) : Prop :=
  ∀ start : State,
    dropped start ≤ dropped (action.run start).2 ∧
      (dropped (action.run start).2 = dropped start → other.run start = action.run start)

namespace Unhindered

variable {α β : Type}

theorem of_silent {action : Action α}
    (silent : ∀ start, ∃ result, action.run start = (result, start)) :
    Unhindered action action := by
  intro start
  rcases silent start with ⟨result, ran⟩
  rw [ran]
  exact ⟨Nat.le_refl _, fun _ => rfl⟩

theorem bind {action action' : Action α} {next next' : α → Action β}
    (first : Unhindered action action')
    (second : ∀ result, Unhindered (next result) (next' result)) :
    Unhindered (action >>= next) (action' >>= next') := by
  intro start
  rcases first start with ⟨least, same⟩
  rcases second (action.run start).1 (action.run start).2 with ⟨most, same'⟩
  refine ⟨Nat.le_trans least most, fun undropped => ?_⟩
  have total : dropped ((next (action.run start).1).run (action.run start).2).2 = dropped start :=
    undropped
  have begun : action'.run start = action.run start := same (by omega)
  show (next' (action'.run start).1).run (action'.run start).2 = _
  rw [begun]
  exact same' (by omega)

theorem modifyGet {change : State → α × State}
    (more : ∀ start, dropped start ≤ dropped (change start).2) :
    Unhindered (modifyGetThe State change : Action α) (modifyGetThe State change) :=
  fun start => ⟨more start, fun _ => rfl⟩

theorem report (level : Log.Level) (message : String) (fields : List (String × String)) :
    Unhindered (Context.report host level message fields : Action Unit)
      (Context.report host level message fields) :=
  modifyGet fun start => (Kept.log start level message fields).dropped

theorem changeDepth (change : Nat → Nat) :
    Unhindered (Simulation.changeDepth change : Action Unit) (Simulation.changeDepth change) :=
  modifyGet fun _ => Nat.le_refl _

theorem changeBoard (change : Board → Board) :
    Unhindered (Simulation.changeBoard change : Action Unit) (Simulation.changeBoard change) :=
  modifyGet fun _ => Nat.le_refl _

end Unhindered

/-- What the host does needs no more room, if its notifications do not. -/
def moreRoom : HostRelation Action Action :=
  .ofSame ⟨Unhindered, fun result => .of_silent fun _ => ⟨result, rfl⟩, .bind⟩
    (fun further start => further start start) .report
    (fun expression => .of_silent fun start => ⟨_, evaluate_run expression start⟩)

/-- Notifications that are not dropped do the same with more room. -/
theorem notify_unhindered {room more : Nat} (least : room ≤ more) (names : List String) :
    Unhindered (notify room names) (notify more names) := by
  induction room generalizing more names with
  | zero =>
      intro start
      have counted : dropped ((notify 0 names : Action Unit).run start).2 = dropped start + 1 :=
        dropped_notify_zero names start
      exact ⟨by omega, by omega⟩
  | succ room induction =>
      cases more with
      | zero => exact absurd least (Nat.not_succ_le_zero room)
      | succ more =>
          have serves := moreRoom.serves (fun change _ => .changeBoard change)
            (induction (Nat.le_of_succ_le_succ least))
          have touched := moreRoom.touchNoting serves names
          exact .bind (.changeDepth _) fun _ => .bind touched fun _ => .changeDepth _

/-! ## Phases -/

theorem dropped_le_subscribe (state : State) (source : String) (active : Active) :
    dropped state ≤ dropped (state.subscribe source active).2 := by
  rw [Context.subscribe]
  cases Token.namesIn source with
  | error error => exact Nat.le_refl _
  | ok names =>
      let added : State := { state with watcher := (state.watcher.subscribe names active).2 }
      have more := fun message fields => (Kept.log added .debug message fields).dropped
      dsimp only
      split
      · exact more _ _
      · exact more _ _

theorem subscribeController_unhindered (controller : Controller) :
    Unhindered (subscribeController controller) (subscribeController controller) := by
  refine .bind (.modifyGet fun state => ?_) fun compiled => ?_
  · rw [Context.compile_context]
    exact Nat.le_refl (dropped state)
  · cases compiled with
    | error error => exact .of_silent fun _ => ⟨_, rfl⟩
    | ok parsed =>
        refine .bind (.modifyGet fun state => ?_) fun id => ?_
        · exact dropped_le_subscribe state controller.condition _
        · cases id <;> exact .of_silent fun _ => ⟨_, rfl⟩

theorem Phase.run_unhindered (phase : Phase) :
    Unhindered (phase.run : Action Unit) phase.run := by
  have changed := fun change (_ : ∀ board, (change board).counters = board.counters) =>
    Unhindered.changeBoard change
  have top := notify_unhindered (Nat.le_refl cascadeLimit)
  cases phase with
  | activation controller =>
      have subscribed := subscribeController_unhindered controller
      exact .bind (moreRoom.activate changed top subscribed) fun _ => moreRoom.holds_pure ()
  | step step =>
      refine moreRoom.runStep changed top (fun _ _ => .changeBoard _) (fun same => same ▸ rfl)
        (fun same => same ▸ rfl) (fun samples => ?_) step
      exact .modifyGet fun state => (observeAll_kept state samples).dropped

/-- What was dropped in a phase stays in the journal. -/
theorem Phase.dropped_le_next (phase : Phase) (state : State) :
    dropped state ≤ dropped (phase.next state) :=
  (phase.run_unhindered state).1

theorem dropped_le_foldl_next (phases : List Phase) (state : State) :
    dropped state ≤ dropped (phases.foldl Phase.next state) := by
  induction phases generalizing state with
  | nil => exact Nat.le_refl _
  | cons phase rest induction =>
      exact Nat.le_trans (phase.dropped_le_next state) (induction (Phase.next state phase))

theorem Scenario.dropped_le_close (scenario : Scenario) (state : State) :
    dropped state ≤ dropped (scenario.close state) :=
  Nat.le_trans (Kept.log _ _ _ _).dropped (Kept.log state.unload _ _ _).dropped

/-- What was dropped up to a phase stays in the journal to the end. -/
theorem dropped_le_run {scenario : Scenario} {earlier later : List Phase}
    (split : scenario.phases = earlier ++ later) (prepared : State) :
    dropped (scenario.stateAfter earlier prepared) ≤
      dropped ((runScenario scenario : Action Report).run prepared).2 := by
  rw [runScenario_run, split, Scenario.stateAfter, Scenario.stateAfter, List.foldl_append]
  exact Nat.le_trans (dropped_le_foldl_next later _) (scenario.dropped_le_close _)

end Vigil.Simulation
