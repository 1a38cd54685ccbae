import Vigil.Proofs.Simulation.Ending
import Vigil.Proofs.Simulation.Quiescence

/-!
# Chains that are never cut

A controller that sets a flag is notified of nothing more once the flag is set.  So where no
controller clears a flag, a chain of controllers that set each other off takes one flag after the
other away from those that are still unset, and it ends when there are none left.  The invariant
ties the two together: no more flags are unset than there is room for further notifications.

Only the flags of the controllers count.  A step may clear some of them, but a step begins with all
the room there is.
-/

namespace Vigil.Simulation

/-- The condition of a controller is an expression whose calls fit the functions. -/
def Controller.Compiles (controller : Controller) (registry : Registry host.Sensor) : Prop :=
  ∃ expression,
    Expression.parse controller.condition = .ok expression ∧
      expression.tree.check registry = .ok ()

/-! ## Flags that are unset -/

/-- Those of some flags that are not set. -/
def Board.unset (board : Board) (flags : List String) : List String :=
  flags.filter fun flag => !board.hasFlag flag

theorem Board.length_unset_le (board : Board) (flags : List String) :
    (board.unset flags).length ≤ flags.length :=
  List.length_filter_le _ _

theorem Board.mem_insertName {name other : String} {names : List String} :
    other ∈ insertName name names ↔ other = name ∨ other ∈ names := by
  induction names with
  | nil => simp [insertName]
  | cons first rest induction =>
      rw [insertName]
      split
      · next same =>
        subst same
        simp
      · split
        · simp
        · simp only [List.mem_cons, induction]
          exact or_left_comm

theorem Board.hasFlag_setFlag {board : Board} {name other : String} :
    (board.setFlag name).hasFlag other = true ↔ other = name ∨ board.hasFlag other = true := by
  simp only [hasFlag, setFlag, List.contains_iff_mem]
  exact mem_insertName

/-- Setting a flag leaves fewer unset. -/
theorem Board.length_unset_setFlag {board : Board} {name : String} {flags : List String}
    (member : name ∈ flags) (unset : board.hasFlag name = false) :
    ((board.setFlag name).unset flags).length < (board.unset flags).length := by
  have left : (board.setFlag name).unset flags = (board.unset flags).filter (· ≠ name) := by
    rw [Board.unset, Board.unset, List.filter_filter]
    refine List.filter_congr fun other _ => ?_
    rw [Bool.eq_iff_iff]
    simp [hasFlag_setFlag, ← Bool.not_eq_true]
  rw [left]
  refine List.length_filter_lt_length_iff_exists.mpr ⟨name, ?_, by simp⟩
  exact List.mem_filter.mpr ⟨member, by simp [unset]⟩

/-! ## Actions that drop nothing -/

/-- All subscribers set one of these flags, of which only so many are unset. -/
structure Unbroken (registry : Registry host.Sensor) (flags : List String) (level : Nat)
    (state : State) : Prop where
  registered : state.registry = registry
  cached : state.cache.Sound
  setting : ∀ name, ∀ subscription ∈ state.watcher.subscribers name,
    subscription.callback.controller.mode = .set ∧ subscription.callback.controller.flag ∈ flags
  unset : (state.data.board.unset flags).length ≤ level
  undropped : dropped state = 0

namespace Unbroken

variable {registry : Registry host.Sensor} {flags : List String} {level more : Nat}
variable {state later : State}

theorem mono (unbroken : Unbroken registry flags level state) (least : level ≤ more) :
    Unbroken registry flags more state :=
  { unbroken with unset := Nat.le_trans unbroken.unset least }

/-- Nothing else of a state matters. -/
theorem of_same (unbroken : Unbroken registry flags level state)
    (functions : later.registry = state.registry) (cache : later.cache = state.cache)
    (watcher : later.watcher = state.watcher) (board : later.data.board = state.data.board)
    (undropped : dropped later = dropped state) : Unbroken registry flags level later where
  registered := functions.trans unbroken.registered
  cached := cache ▸ unbroken.cached
  setting := watcher ▸ unbroken.setting
  unset := board ▸ unbroken.unset
  undropped := undropped.trans unbroken.undropped

theorem log (unbroken : Unbroken registry flags level state) {message : String}
    (other : message ≠ "notification cascade too deep, dropping") (degree : Log.Level)
    (fields : List (String × String)) :
    Unbroken registry flags level (state.log degree message fields) := by
  refine unbroken.of_same rfl rfl rfl rfl ?_
  rw [dropped_log, if_neg (by simpa using other), Nat.add_zero]

end Unbroken

/-- What is recorded ends in an unbroken chain, and none of its moments shows a drop. -/
structure Recording.Uncut (registry : Registry host.Sensor) (flags : List String) (level : Nat)
    {α : Type} (recording : Recording α) : Prop where
  final : Unbroken registry flags level recording.final
  moments : ∀ moment ∈ recording.moments, dropped moment = 0

/-- From an unbroken chain an action leads to one, and it drops nothing. -/
def Recorded.Uncut (registry : Registry host.Sensor) (flags : List String) (level : Nat) {α : Type}
    (action : Recorded α) : Prop :=
  ∀ start, Unbroken registry flags level start →
    (action.run start).Uncut registry flags level

namespace Recorded.Uncut

variable {registry : Registry host.Sensor} {flags : List String} {level : Nat} {α β : Type}

theorem of_silent {action : Recorded α}
    (silent : ∀ start, ∃ result, action.run start = ⟨result, start, []⟩) :
    action.Uncut registry flags level := by
  intro start unbroken
  rcases silent start with ⟨result, ran⟩
  rw [ran]
  exact ⟨unbroken, nofun⟩

theorem run_bind {action : Recorded α} {next : α → Recorded β} {start : State}
    (first : ∀ moment ∈ (action.run start).moments, dropped moment = 0)
    (second : ((next (action.run start).result).run (action.run start).final).Uncut
      registry flags level) :
    ((action >>= next).run start).Uncut registry flags level := by
  refine ⟨second.final, fun moment member => ?_⟩
  rcases List.mem_append.mp member with early | late
  · exact first moment early
  · exact second.moments moment late

theorem bind {action : Recorded α} {next : α → Recorded β}
    (first : action.Uncut registry flags level)
    (second : ∀ result, (next result).Uncut registry flags level) :
    (action >>= next).Uncut registry flags level := by
  intro start unbroken
  have begun := first start unbroken
  exact run_bind begun.moments (second _ _ begun.final)

theorem run_modifyGet {change : State → α × State} {start : State}
    (unbroken : Unbroken registry flags level (change start).2) :
    ((modifyGetThe State change : Recorded α).run start).Uncut registry flags level := by
  refine ⟨unbroken, fun moment member => ?_⟩
  rw [List.mem_singleton.mp member]
  exact unbroken.undropped

theorem modifyGet {change : State → α × State}
    (keeps : ∀ start, Unbroken registry flags level start →
      Unbroken registry flags level (change start).2) :
    (modifyGetThe State change : Recorded α).Uncut registry flags level :=
  fun start unbroken => run_modifyGet (keeps start unbroken)

theorem report {message : String} (other : message ≠ "notification cascade too deep, dropping")
    (degree : Log.Level) (fields : List (String × String)) :
    (Context.report host degree message fields : Recorded Unit).Uncut registry flags level :=
  modifyGet fun _ unbroken => unbroken.log other degree fields

theorem changeDepth (change : Nat → Nat) :
    (Simulation.changeDepth change : Recorded Unit).Uncut registry flags level :=
  modifyGet fun _ unbroken => unbroken.of_same rfl rfl rfl rfl rfl

end Recorded.Uncut

/-- What the host does drops nothing, if its notifications do not. -/
def chain (registry : Registry host.Sensor) (flags : List String) (level : Nat) :
    HostRelation Recorded Recorded where
  Holds := fun action _ => action.Uncut registry flags level
  holds_pure := fun result => .of_silent fun _ => ⟨result, rfl⟩
  holds_bind := .bind
  Alike := fun state state' => state = state' ∧ Unbroken registry flags level state
  registry_eq := fun alike => alike.1 ▸ rfl
  watcher_eq := fun alike => alike.1 ▸ rfl
  events_eq := fun alike => alike.1 ▸ rfl
  holds_look := fun further start unbroken => further start start ⟨rfl, unbroken⟩ start unbroken
  Told := (· ≠ "notification cascade too deep, dropping")
  told_of_delivery := by decide
  holds_report := fun told degree fields => .report told degree fields
  board_eq := fun alike => alike.1 ▸ rfl
  told_of_host := by decide
  holds_evaluate := fun expression =>
    .of_silent fun start => ⟨_, evaluate_recorded expression start⟩

/-! ## Notifications -/

section Notified

variable {registry : Registry host.Sensor} {flags : List String} {level : Nat}
variable {notify : Notifier Recorded}
variable (uncut : ∀ lower, lower < level → ∀ names, (notify names).Uncut registry flags lower)
include uncut

/-- Setting one of the flags leaves fewer of them to what is notified. -/
theorem setFlag_uncut {flag : String} (member : flag ∈ flags) :
    (setFlag notify flag).Uncut registry flags level := by
  intro start unbroken
  show Recording.Uncut _ _ _ ((if !start.data.board.hasFlag flag then _ else _ :
    Recorded Unit).run start)
  split
  · next unset =>
    have fewer := Board.length_unset_setFlag member (by simpa using unset)
    have most := unbroken.unset
    let lower := ((start.data.board.setFlag flag).unset flags).length
    have changed : Unbroken registry flags lower
        { start with data := { start.data with board := start.data.board.setFlag flag } } :=
      ⟨unbroken.registered, unbroken.cached, unbroken.setting, Nat.le_refl _, unbroken.undropped⟩
    have notified := uncut lower (by omega) flagFunctions _ changed
    have ended : Recording.Uncut registry flags level _ :=
      ⟨notified.final.mono (by omega), notified.moments⟩
    exact Recorded.Uncut.run_bind (Recorded.Uncut.run_modifyGet changed).moments ended
  · exact ⟨unbroken, nofun⟩

theorem serves_uncut :
    (chain registry flags level).Serves (runController notify) (runController notify) := by
  rintro state state' ⟨same, unbroken⟩ name subscription listed
  rcases unbroken.setting name subscription listed with ⟨mode, member⟩
  refine (chain registry flags level).runController ?_
  refine (chain registry flags level).applyController (fun _ => ?_) fun clear => ?_
  · exact setFlag_uncut uncut member
  · rw [mode] at clear
    cases clear

end Notified

/-- A notification with more room than there are flags unset drops nothing. -/
theorem notify_uncut (registry : Registry host.Sensor) (flags : List String) {level room : Nat}
    (enough : level < room) (names : List String) :
    (notify room names : Recorded Unit).Uncut registry flags level := by
  induction room generalizing level names with
  | zero => cases enough
  | succ room induction =>
      have serves := @serves_uncut registry flags level (notify room) fun lower less names =>
        induction (by omega) names
      have touched := (chain registry flags level).touchNoting serves names
      exact .bind (.changeDepth _) fun _ => .bind touched fun _ => .changeDepth _

/-! ## Phases -/

section Phases

variable {registry : Registry host.Sensor} {flags : List String}

/-- Whatever happens to the board, no more flags than all are unset. -/
theorem changeBoard_uncut (change : Board → Board) :
    (changeBoard change : Recorded Unit).Uncut registry flags flags.length :=
  .modifyGet fun _ unbroken =>
    ⟨unbroken.registered, unbroken.cached, unbroken.setting, Board.length_unset_le _ flags,
      unbroken.undropped⟩

variable {level : Nat}

theorem observeAll_uncut (samples : List (String × Value)) :
    (modifyGetThe State (·.observeAll samples) : Recorded (List String)).Uncut
      registry flags level := by
  refine .modifyGet fun start unbroken => ?_
  refine List.foldlRecOn (motive := Unbroken registry flags level) _ _ ?_ ?_
  · exact unbroken.of_same rfl rfl rfl rfl rfl
  · rintro state unbroken change -
    exact unbroken.log (by decide) _ _

theorem unload_uncut :
    (modifyThe State Context.unload : Recorded Unit).Uncut registry flags level := by
  refine .modifyGet fun start unbroken => ?_
  have unloaded : Unbroken registry flags level { start with watcher := start.watcher.unload } :=
    ⟨unbroken.registered, unbroken.cached, nofun, unbroken.unset, unbroken.undropped⟩
  have other : "condition watcher unloaded" ≠ "notification cascade too deep, dropping" := by
    decide
  have told := unloaded.log other .info
    [("subscriptions", toString start.watcher.subscriptionCount)]
  exact told.of_same rfl rfl rfl rfl rfl

theorem Unbroken.subscribe {state : State} (unbroken : Unbroken registry flags level state)
    (source : String) {active : Active} (mode : active.controller.mode = .set)
    (member : active.controller.flag ∈ flags) :
    Unbroken registry flags level (state.subscribe source active).2 := by
  rw [Context.subscribe]
  cases Token.namesIn source with
  | error error => exact unbroken
  | ok names =>
      have subscribed : Unbroken registry flags level
          { state with watcher := (state.watcher.subscribe names active).2 } := by
        refine ⟨unbroken.registered, unbroken.cached, ?_, unbroken.unset, unbroken.undropped⟩
        intro name subscription listed
        rcases Watcher.mem_subscribers_subscribe active listed with earlier | same
        · exact unbroken.setting name subscription earlier
        · rw [same]
          exact ⟨mode, member⟩
      dsimp only
      split
      · exact subscribed.log (by decide) _ _
      · exact subscribed.log (by decide) _ _

/-- Only controllers that compile are subscribed. -/
theorem subscribeController_uncut {controller : Controller}
    (setting : controller.Compiles registry →
      controller.mode = .set ∧ controller.flag ∈ flags) :
    (subscribeController controller : Recorded _).Uncut registry flags level := by
  intro start unbroken
  have parsed : Unbroken registry flags level (start.parse controller.condition).2 :=
    ⟨unbroken.registered, unbroken.cached.parse controller.condition, unbroken.setting,
      unbroken.unset, unbroken.undropped⟩
  have quiet : ∀ moment ∈ [(start.parse controller.condition).2], dropped moment = 0 := by
    intro moment member
    rw [List.mem_singleton.mp member]
    exact parsed.undropped
  let compiling : Recorded (Except ConditionError Parsed) :=
    modifyGetThe State (Context.compile · controller.condition)
  rcases Context.compile_cases unbroken.cached controller.condition with
    ⟨error, compiled, -⟩ | ⟨expression, number, compiled, read, checked⟩
  · have begun : compiling.run start = _ := Recorded.run_modifyGet compiled
    refine @Recorded.Uncut.run_bind _ _ _ _ _ compiling _ _ ?_ ?_
    · rw [begun]
      exact quiet
    · rw [begun]
      exact ⟨parsed, nofun⟩
  · rw [unbroken.registered] at checked
    rcases setting ⟨expression, read, checked⟩ with ⟨mode, member⟩
    have begun : compiling.run start = _ := Recorded.run_modifyGet compiled
    refine @Recorded.Uncut.run_bind _ _ _ _ _ compiling _ _ ?_ ?_
    · rw [begun]
      exact quiet
    · rw [begun]
      refine Recorded.Uncut.bind (.modifyGet fun state unbroken => ?_) (fun id => ?_) _ parsed
      · exact unbroken.subscribe controller.condition mode member
      · cases id with
        | error error => exact .of_silent fun _ => ⟨_, rfl⟩
        | ok id => exact .of_silent fun _ => ⟨_, rfl⟩

end Phases

/-! ## Every run -/

theorem dropped_of_quiet {state : State} (quiet : Quiet state) : dropped state = 0 := by
  rw [dropped, Array.countP_eq_zero]
  intro entry member told
  have listed := quiet entry member
  rw [eq_of_beq told] at listed
  revert listed
  decide

/-- From where a scenario is set up, its whole run drops nothing. -/
theorem runScenario_uncut {scenario : Scenario} {settings : Settings} {prepared : State}
    (made : prepare scenario settings = .ok prepared) {flags : List String}
    (few : flags.length < cascadeLimit)
    (setting : ∀ controller ∈ scenario.controllers, controller.Compiles prepared.registry →
      controller.mode = .set ∧ controller.flag ∈ flags) :
    ((runScenario scenario : Recorded Report).run prepared).Uncut
      prepared.registry flags flags.length := by
  have found := prepared_of_prepare made
  have start : Unbroken prepared.registry flags flags.length prepared := by
    refine ⟨rfl, found.cached, ?_, Board.length_unset_le _ flags, dropped_of_quiet found.quiet⟩
    rw [found.watcher]
    exact nofun
  let relation := chain prepared.registry flags flags.length
  refine relation.runScenario (fun change _ => changeBoard_uncut change)
    (notify_uncut prepared.registry flags few) (fun _ _ => changeBoard_uncut _)
    (fun alike => alike.1 ▸ rfl) (fun alike => alike.1 ▸ rfl) observeAll_uncut
    (fun controller member => ?_) unload_uncut prepared start
  exact subscribeController_uncut (setting controller member)

/--
If all controllers that compile set flags, and set fewer different flags than notifications may be
nested, then no notification is dropped at any moment of the run, whatever the controllers watch,
however they set each other off, and whatever the steps are.
-/
theorem chains_are_never_cut {scenario : Scenario} {settings : Settings} {prepared : State}
    (made : prepare scenario settings = .ok prepared) {flags : List String}
    (few : flags.length < cascadeLimit)
    (setting : ∀ controller ∈ scenario.controllers, controller.Compiles prepared.registry →
      controller.mode = .set ∧ controller.flag ∈ flags) :
    let recording := (runScenario scenario : Recorded Report).run prepared
    run scenario settings = .ok (recording.result, recording.final) ∧
    dropped recording.final = 0 ∧
    ∀ moment ∈ recording.moments, dropped moment = 0 := by
  have uncut := runScenario_uncut made few setting
  refine ⟨?_, uncut.final.undropped, uncut.moments⟩
  rw [run, made, ← runScenario_recorded]
  rfl

theorem chains_are_never_cut_relay :
    prepare relayScenario .default = .ok relayPrepared ∧
    ["b"].length < cascadeLimit ∧
    (∀ controller ∈ relayScenario.controllers, controller.Compiles relayPrepared.registry →
      controller.mode = .set ∧ controller.flag ∈ ["b"]) ∧
    dropped ((runScenario relayScenario : Recorded Report).run relayPrepared).final = 0 := by
  have few : ["b"].length < cascadeLimit := by decide
  have setting : ∀ controller ∈ relayScenario.controllers,
      controller.Compiles relayPrepared.registry →
        controller.mode = .set ∧ controller.flag ∈ ["b"] := by
    intro controller member _
    rw [List.mem_singleton.mp member]
    exact ⟨rfl, .head _⟩
  exact ⟨relay_made, few, setting, (chains_are_never_cut relay_made few setting).2.1⟩

end Vigil.Simulation
