import Vigil.Proofs.Simulation.Recording
import Vigil.Proofs.Watch.Index

/-!
# How notifications settle

Controllers run inside the notifications that other controllers cause, and each may change flags
that conditions evaluated before were true of.  What saves them is that every change of a flag is
notified in turn, and that a notification ends only when all who watch the flags have been looked
at.  `Settling` is what one action and all that is nested in it comes to, unless a notification is
dropped: either no flag has changed and the controllers that were looked at are obeyed, or all who
watch the flags are.  It is closed under sequences, and `notify_settles` follows by induction on
the room that is left.
-/

namespace Vigil.Simulation

/-! ## Controllers that are obeyed -/

/-- The flag of a controller is as the controller wants it. -/
def Controller.InForce (controller : Controller) (board : Board) : Prop :=
  match controller.mode with
  | .set => board.hasFlag controller.flag = true
  | .clear => board.hasFlag controller.flag = false

/-- A controller is in force if its condition is true. -/
def Active.Obeyed (active : Active) (state : State) : Prop :=
  ∀ value, outcomeOn state.registry state.data.board active.condition = .ok value →
    value.isTrue = true → active.controller.InForce state.data.board

/-- A controller watches one of these functions. -/
def Watching (watcher : Watcher host.Callback) (names : List String) (active : Active) : Prop :=
  ∃ name ∈ names, ∃ subscription ∈ watcher.subscribers name, subscription.callback = active

theorem not_watching_nil {watcher : Watcher host.Callback} {active : Active} :
    ¬ Watching watcher [] active := by
  simp [Watching]

theorem watching_cons {watcher : Watcher host.Callback} {name : String} {names : List String}
    {active : Active} :
    Watching watcher (name :: names) active ↔
      (∃ subscription ∈ watcher.subscribers name, subscription.callback = active) ∨
        Watching watcher names active := by
  simp [Watching]

/-- All who watch the flags are obeyed. -/
def Settled (state : State) : Prop :=
  ∀ active, Watching state.watcher flagFunctions active → active.Obeyed state

/-! ## What notifications leave as it is -/

/-- The number of notifications that have been dropped so far. -/
def dropped (state : State) : Nat :=
  state.journal.countP (·.message == "notification cascade too deep, dropping")

theorem dropped_log (state : State) (level : Log.Level) (message : String)
    (fields : List (String × String)) :
    dropped (state.log level message fields) =
      dropped state + if message == "notification cascade too deep, dropping" then 1 else 0 :=
  Array.countP_push

/-- Notifications change no more of a state than its flags, its depth and its journal. -/
structure Kept (start final : State) : Prop where
  registry : final.registry = start.registry
  watcher : final.watcher = start.watcher
  cache : final.cache = start.cache
  counters : final.data.board.counters = start.data.board.counters
  dropped : dropped start ≤ dropped final

namespace Kept

theorem refl (state : State) : Kept state state :=
  ⟨rfl, rfl, rfl, rfl, Nat.le_refl _⟩

theorem trans {first second third : State}
    (before : Kept first second) (after : Kept second third) : Kept first third where
  registry := after.registry.trans before.registry
  watcher := after.watcher.trans before.watcher
  cache := after.cache.trans before.cache
  counters := after.counters.trans before.counters
  dropped := Nat.le_trans before.dropped after.dropped

theorem log (state : State) (level : Log.Level) (message : String)
    (fields : List (String × String)) : Kept state (state.log level message fields) where
  registry := rfl
  watcher := rfl
  cache := rfl
  counters := rfl
  dropped := by
    rw [dropped_log]
    exact Nat.le_add_right _ _

variable {start final : State} (kept : Kept start final)
variable (same : final.data.board.flags = start.data.board.flags)
include kept same

theorem board : final.data.board = start.data.board := by
  calc final.data.board
    _ = ⟨final.data.board.flags, final.data.board.counters⟩ := rfl
    _ = ⟨start.data.board.flags, start.data.board.counters⟩ := by rw [same, kept.counters]
    _ = start.data.board := rfl

/-- A condition looks at nothing that a notification changes, but the flags. -/
theorem obeyed {active : Active} (obeyed : active.Obeyed start) : active.Obeyed final := by
  intro value evaluated truth
  rw [kept.registry, kept.board same] at evaluated
  rw [kept.board same]
  exact obeyed value evaluated truth

theorem settled (settled : Settled start) : Settled final := by
  intro active watching
  rw [kept.watcher] at watching
  exact kept.obeyed same (settled active watching)

end Kept

/-! ## Actions that settle -/

variable {α β : Type}

/-- No flag has changed at any moment. -/
structure Still (start : State) (recording : Recording α) : Prop where
  moments : ∀ moment ∈ recording.moments, moment.data.board.flags = start.data.board.flags
  final : recording.final.data.board.flags = start.data.board.flags

/--
Where no notification is dropped, either no flag changes and those who were looked at are obeyed,
or all who watch the flags are obeyed in the end.
-/
structure Settling (looked : Active → Prop) (start : State) (recording : Recording α) : Prop where
  kept : Kept start recording.final
  settles : dropped recording.final = dropped start →
    (Still start recording ∧ ∀ active, looked active → active.Obeyed recording.final) ∨
      Settled recording.final

namespace Settling

variable {looked others : Active → Prop} {start : State}

theorem weaken {recording : Recording α} (settling : Settling looked start recording)
    (fewer : ∀ active, others active → looked active) : Settling others start recording where
  kept := settling.kept
  settles := by
    intro undropped
    rcases settling.settles undropped with ⟨still, obeyed⟩ | settled
    · exact .inl ⟨still, fun active member => obeyed active (fewer active member)⟩
    · exact .inr settled

/-- Nothing happens, and those who were looked at are obeyed as it is. -/
theorem nothing (result : α) (obeyed : ∀ active, looked active → active.Obeyed start) :
    Settling looked start ⟨result, start, []⟩ where
  kept := .refl start
  settles := fun _ => .inl ⟨⟨nofun, rfl⟩, obeyed⟩

/-- What the first of two actions found is still so after the second, or all is settled anew. -/
theorem bind {action : Recorded α} {next : α → Recorded β}
    (first : Settling looked start (action.run start))
    (second : Settling others (action.run start).final
      ((next (action.run start).result).run (action.run start).final)) :
    Settling (fun active => looked active ∨ others active) start ((action >>= next).run start) where
  kept := first.kept.trans second.kept
  settles := by
    intro undropped
    have total :
        dropped ((next (action.run start).result).run (action.run start).final).final =
          dropped start :=
      undropped
    have least := first.kept.dropped
    have most := second.kept.dropped
    have firstUndropped : dropped (action.run start).final = dropped start := by omega
    rcases second.settles (total.trans firstUndropped.symm) with ⟨still, obeyed⟩ | settled
    · rcases first.settles firstUndropped with ⟨stillBefore, obeyedBefore⟩ | settledBefore
      · refine .inl ⟨⟨?_, still.final.trans stillBefore.final⟩, ?_⟩
        · intro moment member
          rcases List.mem_append.mp member with early | late
          · exact stillBefore.moments moment early
          · exact (still.moments moment late).trans stillBefore.final
        · rintro active (before | after)
          · exact second.kept.obeyed still.final (obeyedBefore active before)
          · exact obeyed active after
      · exact .inr (second.kept.settled still.final settledBefore)
    · exact .inr settled

end Settling

/-- An action settles wherever the subscriptions are as they are in a watcher. -/
def Recorded.Settles (action : Recorded α) (watcher : Watcher host.Callback)
    (looked : Active → Prop) : Prop :=
  ∀ start : State, start.watcher = watcher → Settling looked start (action.run start)

namespace Recorded.Settles

variable {watcher : Watcher host.Callback} {looked others : Active → Prop}

theorem weaken {action : Recorded α} (settles : action.Settles watcher looked)
    (fewer : ∀ active, others active → looked active) : action.Settles watcher others :=
  fun start same => (settles start same).weaken fewer

theorem pure (result : α) : (Pure.pure result : Recorded α).Settles watcher fun _ => False :=
  fun _ _ => .nothing result nofun

theorem bind {action : Recorded α} {next : α → Recorded β}
    (first : action.Settles watcher looked)
    (second : ∀ result, (next result).Settles watcher others) :
    (action >>= next).Settles watcher fun active => looked active ∨ others active := by
  intro start same
  have begun := first start same
  exact begun.bind (second _ _ (begun.kept.watcher.trans same))

/-- Nobody is looked at in what comes first. -/
theorem after {action : Recorded α} {next : α → Recorded β}
    (first : action.Settles watcher fun _ => False)
    (second : ∀ result, (next result).Settles watcher looked) :
    (action >>= next).Settles watcher looked :=
  (first.bind second).weaken fun _ => .inr

/-- Nobody is looked at in what comes last. -/
theorem before {action : Recorded α} {next : α → Recorded β}
    (first : action.Settles watcher looked)
    (second : ∀ result, (next result).Settles watcher fun _ => False) :
    (action >>= next).Settles watcher looked :=
  (first.bind second).weaken fun _ => .inl

/-- What follows a look at the state may depend on the state. -/
theorem look {next : State → Recorded β}
    (settling : ∀ start : State, start.watcher = watcher →
      Settling looked start ((next start).run start)) :
    (getThe State >>= next : Recorded β).Settles watcher looked :=
  settling

theorem evaluate {expression : Expression} {next : Except EvalError Value → Recorded β}
    (settling : ∀ start : State, start.watcher = watcher →
      Settling looked start
        ((next (outcomeOn start.registry start.data.board expression)).run start)) :
    (Context.evaluate runSensor expression >>= next : Recorded β).Settles watcher looked := by
  intro start same
  rw [Recorded.run_bind (evaluate_recorded expression start)]
  exact settling start same

theorem modifyGet {change : State → α × State}
    (kept : ∀ start, Kept start (change start).2)
    (same : ∀ start : State, (change start).2.data.board.flags = start.data.board.flags) :
    (modifyGetThe State change : Recorded α).Settles watcher fun _ => False := by
  intro start _
  refine ⟨kept start, fun _ => .inl ⟨⟨?_, same start⟩, nofun⟩⟩
  intro moment member
  rw [List.mem_singleton.mp member]
  exact same start

theorem report (level : Log.Level) (message : String) (fields : List (String × String)) :
    (Context.report host level message fields : Recorded Unit).Settles watcher fun _ => False :=
  modifyGet (fun start => .log start level message fields) fun _ => rfl

theorem changeDepth (change : Nat → Nat) :
    (Simulation.changeDepth change : Recorded Unit).Settles watcher fun _ => False :=
  modifyGet (fun _ => ⟨rfl, rfl, rfl, rfl, Nat.le_refl _⟩) fun _ => rfl

end Recorded.Settles

/-! ## Touches -/

variable {watcher : Watcher host.Callback}

section Touches

variable {callback : host.Callback → Recorded Outcome}
variable (looks : ∀ active, (callback active).Settles watcher (· = active))
include looks

theorem notifyOne_settles (name : String) {subscription : Subscription host.Callback}
    (live : watcher.isLive subscription.id = true) :
    (Context.notify callback name subscription).Settles watcher (· = subscription.callback) := by
  refine .look fun start same => ?_
  rw [same, if_pos live]
  refine (looks subscription.callback).before (fun outcome => ?_) start same
  cases outcome with
  | done => exact .pure _
  | failed message => exact .before (.report _ _ _) fun _ => .pure _
  | panicked message? => exact .before (.report _ _ _) fun _ => .pure _

theorem notifyAll_settles (name : String) {subscriptions : List (Subscription host.Callback)}
    (live : ∀ subscription ∈ subscriptions, watcher.isLive subscription.id = true) :
    (Context.notifyAll callback name subscriptions).Settles watcher
      fun active => ∃ subscription ∈ subscriptions, subscription.callback = active := by
  induction subscriptions with
  | nil =>
      refine (Recorded.Settles.pure _).weaken ?_
      rintro active ⟨subscription, member, -⟩
      cases member
  | cons subscription rest induction =>
      have first := notifyOne_settles looks name (live subscription List.mem_cons_self)
      have others := induction fun other member => live other (List.mem_cons_of_mem _ member)
      refine (first.bind fun _ => others.before fun _ => .pure _).weaken ?_
      rintro active ⟨other, member, rfl⟩
      rcases List.mem_cons.mp member with rfl | later
      · exact .inl rfl
      · exact .inr ⟨other, later, rfl⟩

variable (consistent : watcher.Consistent)
include consistent

/-- A touch looks at all who watch the function, since whoever is listed is live. -/
theorem touch_settles (name : String) :
    (Context.touch callback name).Settles watcher
      fun active => ∃ subscription ∈ watcher.subscribers name, subscription.callback = active := by
  refine .look fun start same => ?_
  simp only [same]
  split
  · next nobody =>
    refine .nothing _ fun active watching => ?_
    rcases watching with ⟨subscription, listed, -⟩
    have watched := List.ne_nil_of_mem listed
    rw [consistent.loaded_of_watched watched, List.isEmpty_eq_false_iff.mpr watched] at nobody
    cases nobody
  · refine Recorded.Settles.after (.report _ _ _) (fun _ => ?_) start same
    refine notifyAll_settles looks name fun subscription listed => ?_
    exact consistent.isLive_of_mem (Watcher.mem_idsUnder.mpr ⟨subscription, listed, rfl⟩)

theorem touchAll_settles (names : List String) :
    (Context.touchAll callback names).Settles watcher (Watching watcher names) := by
  induction names with
  | nil =>
      exact (Recorded.Settles.pure _).weaken fun _ => not_watching_nil
  | cons name rest induction =>
      have touched := touch_settles looks consistent name
      refine (touched.bind fun _ => induction.before fun _ => .pure _).weaken ?_
      exact fun _ => watching_cons.mp

theorem touchNoting_settles (names : List String) :
    (touchNoting callback names).Settles watcher (Watching watcher names) := by
  induction names with
  | nil =>
      exact (Recorded.Settles.pure _).weaken fun _ => not_watching_nil
  | cons name rest induction =>
      have touched := touch_settles looks consistent name
      refine (touched.bind fun _ => .after (.report _ _ _) fun _ => induction).weaken ?_
      exact fun _ => watching_cons.mp

end Touches

/-! ## Notifications -/

section Notified

variable {notify : Notifier Recorded}
variable (settles : ∀ names, (notify names).Settles watcher (Watching watcher names))
include settles

/-- Once flags have changed and this was notified, all who watch the flags are obeyed. -/
theorem changeFlags_settles (change : Board → Board)
    (counters : ∀ board, (change board).counters = board.counters) (looked : Active → Prop) :
    (do changeBoard change; notify flagFunctions : Recorded Unit).Settles watcher looked := by
  intro start same
  let changed : State :=
    { start with data := { start.data with board := change start.data.board } }
  have changing : Kept start changed := ⟨rfl, rfl, rfl, counters _, Nat.le_refl _⟩
  have notified := settles flagFunctions changed same
  refine ⟨changing.trans notified.kept, fun undropped => .inr ?_⟩
  -- A notification that changes no flag itself has still looked at all who watch the flags.
  rcases notified.settles undropped with ⟨still, obeyed⟩ | settled
  · intro active watching
    refine obeyed active ?_
    rw [← notified.kept.watcher.trans same]
    exact watching
  · exact settled

theorem setFlag_settles (flag : String) :
    (setFlag notify flag).Settles watcher
      fun active => active.controller.mode = .set ∧ active.controller.flag = flag := by
  refine .look fun start same => ?_
  split
  · exact changeFlags_settles settles (·.setFlag flag) (fun _ => rfl) _ start same
  · next set =>
    refine .nothing () ?_
    rintro active ⟨mode, rfl⟩ value - -
    rw [Controller.InForce, mode]
    simpa using set

theorem clearFlag_settles (flag : String) :
    (clearFlag notify flag).Settles watcher
      fun active => active.controller.mode = .clear ∧ active.controller.flag = flag := by
  refine .look fun start same => ?_
  split
  · exact changeFlags_settles settles (·.clearFlag flag) (fun _ => rfl) _ start same
  · next cleared =>
    refine .nothing () ?_
    rintro active ⟨mode, rfl⟩ value - -
    rw [Controller.InForce, mode]
    simpa using cleared

theorem applyController_settles (active : Active) :
    (applyController notify active).Settles watcher (· = active) := by
  refine .evaluate fun start same => ?_
  cases evaluated : outcomeOn start.registry start.data.board active.condition with
  | error error =>
      refine .nothing _ ?_
      rintro _ rfl value found
      rw [evaluated] at found
      cases found
  | ok value =>
      dsimp only
      split
      · next truth =>
        cases mode : active.controller.mode with
        | set =>
            have settled := setFlag_settles settles active.controller.flag
            refine (settled.before fun _ => .pure _).weaken ?_ start same
            rintro _ rfl
            exact ⟨mode, rfl⟩
        | clear =>
            have settled := clearFlag_settles settles active.controller.flag
            refine (settled.before fun _ => .pure _).weaken ?_ start same
            rintro _ rfl
            exact ⟨mode, rfl⟩
      · next untrue =>
        refine .nothing _ ?_
        rintro _ rfl other found truth
        rw [evaluated] at found
        cases found
        exact absurd truth untrue

theorem runController_settles (active : Active) :
    (runController notify active).Settles watcher (· = active) := by
  refine (applyController_settles settles active).before fun outcome => ?_
  cases outcome <;> exact .pure _

end Notified

/-- Where there is no room, the notification is dropped, and the journal says so. -/
theorem dropped_notify_zero (names : List String) (start : State) :
    dropped ((notify 0 names : Recorded Unit).run start).final = dropped start + 1 := by
  show dropped (start.log .warn "notification cascade too deep, dropping" _) = dropped start + 1
  rw [dropped_log, BEq.rfl, if_pos rfl]

/-- A notification looks at all who watch the functions, or settles all who watch the flags. -/
theorem notify_settles (consistent : watcher.Consistent) (room : Nat) (names : List String) :
    (notify room names : Recorded Unit).Settles watcher (Watching watcher names) := by
  induction room generalizing names with
  | zero =>
      intro start _
      -- Nobody is looked at here, so it matters that the drop is counted.
      have more := dropped_notify_zero names start
      refine ⟨⟨rfl, rfl, rfl, rfl, ?_⟩, fun undropped => ?_⟩
      · rw [more]
        exact Nat.le_succ _
      · rw [more] at undropped
        exact absurd undropped (Nat.succ_ne_self _)
  | succ room induction =>
      -- Controllers notify with the room that is left, which the induction covers.
      have looks := runController_settles induction
      have touched := touchNoting_settles looks consistent names
      exact .after (.changeDepth _) fun _ => touched.before fun _ => .changeDepth _

theorem runControllerTop_settles (consistent : watcher.Consistent) (active : Active) :
    (runControllerTop active : Recorded Outcome).Settles watcher (· = active) :=
  runController_settles (notify_settles consistent cascadeLimit) active

/-! ## Events and ticks -/

theorem fireEvent_settles (consistent : watcher.Consistent) (event : String) :
    (Context.fireEvent runControllerTop event : Recorded TouchReport).Settles watcher
      fun _ => False := by
  refine .look fun start same => ?_
  split
  · exact Recorded.Settles.after (.report _ _ _) (fun _ => .pure _) start same
  · next names _ =>
    refine Recorded.Settles.after (.report _ _ _) (fun _ => ?_) start same
    exact (touchAll_settles (runControllerTop_settles consistent) consistent names).weaken nofun

theorem sampleAll_settles (probes : List (Probe host.Probe)) :
    (Context.sampleAll runProbe probes : Recorded _).Settles watcher fun _ => False := by
  induction probes with
  | nil => exact .pure _
  | cons probe rest induction =>
      refine .after ?_ fun sample => induction.before fun samples => .pure _
      exact .look fun start _ => .nothing _ nofun

/-- What is noted of samples concerns no condition. -/
theorem observeAll_kept (start : State) (samples : List (String × Value)) :
    Kept start (start.observeAll samples).2 := by
  refine List.foldlRecOn (motive := Kept start) _ _ ⟨rfl, rfl, rfl, rfl, Nat.le_refl _⟩ ?_
  rintro state kept change -
  exact kept.trans (.log state _ _ _)

theorem tick_settles (consistent : watcher.Consistent) :
    (Context.tick runProbe runControllerTop : Recorded (List String)).Settles watcher
      fun _ => False := by
  refine .look fun start same => ?_
  refine Recorded.Settles.after (sampleAll_settles _) (fun samples => ?_) start same
  have observed (state : State) := observeAll_kept state samples
  refine .after (.modifyGet observed fun state => ?_) fun changed => ?_
  · rw [Context.data_observeAll]
  · have looks := touchAll_settles (runControllerTop_settles consistent) consistent changed
    exact (looks.before fun _ => .pure _).weaken nofun

end Vigil.Simulation
