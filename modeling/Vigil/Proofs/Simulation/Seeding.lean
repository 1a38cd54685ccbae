import Vigil.Proofs.Simulation.Reporting
import Vigil.Simulation.Run

/-!
# The board that a scenario starts with

Flags and counters are set before there are any controllers.  Each change is notified as any other
is, but nobody watches, so it comes to the change of the board and some entries in the journal.
-/

namespace Vigil.Simulation

/-! ## Changes of the board -/

/-- What a change adds to the sum of the counters. -/
def Mutation.amount : Mutation → Int
  | addCounter _ amount => amount
  | setFlag _ | clearFlag _ => 0

theorem Mutation.counterTotal_change (mutation : Mutation) (board : Board) :
    (mutation.change board).counterTotal = board.counterTotal + mutation.amount := by
  cases mutation with
  | addCounter name amount => exact board.counterTotal_addCounter name amount
  | setFlag name | clearFlag name =>
      rw [amount, Int.add_zero, change]
      split <;> rfl

/-- A board after some changes. -/
def Board.changed (board : Board) (mutations : List Mutation) : Board :=
  mutations.foldl (fun board mutation => mutation.change board) board

theorem Board.counterTotal_changed (board : Board) (mutations : List Mutation) :
    (board.changed mutations).counterTotal =
      board.counterTotal + (mutations.map Mutation.amount).sum := by
  induction mutations generalizing board with
  | nil => exact (Int.add_zero _).symm
  | cons mutation rest induction =>
      rw [changed, List.foldl_cons, ← changed, induction, List.map_cons, List.sum_cons,
        mutation.counterTotal_change, Int.add_assoc]

/-- The changes that lead to the board that a scenario starts with. -/
def Scenario.mutations (scenario : Scenario) : List Mutation :=
  scenario.flags.map .setFlag ++
    scenario.counters.map fun counter => .addCounter counter.1 counter.2

theorem Scenario.sum_mutations (scenario : Scenario) :
    (scenario.mutations.map Mutation.amount).sum = (scenario.counters.map Prod.snd).sum := by
  have unraised (flags : List String) :
      ((flags.map Mutation.setFlag).map Mutation.amount).sum = 0 := by
    induction flags with
    | nil => rfl
    | cons flag rest induction =>
        rw [List.map_cons, List.map_cons, List.sum_cons, induction]
        rfl
  rw [mutations, List.map_append, List.sum_append, unraised, Int.zero_add, List.map_map]
  rfl

/-! ## Changes that nobody watches -/

section Unwatched

variable {state : State} (nobody : state.watcher = .empty)
include nobody

theorem touch_unwatched (callback : host.Callback → Action Outcome) (name : String) :
    (Context.touch callback name).run state = (.none, state) := by
  show (if state.watcher.unloaded || (state.watcher.subscribers name).isEmpty then _ else _ :
    Action TouchReport).run state = _
  rw [nobody]
  rfl

theorem touchNoting_unwatched (callback : host.Callback → Action Outcome) (names : List String) :
    ∃ journal, (touchNoting callback names).run state = ((), { state with journal }) := by
  induction names generalizing state with
  | nil => exact ⟨state.journal, rfl⟩
  | cons name rest induction =>
      let told (report : TouchReport) (touched : State) : State :=
        touched.log .debug "touched" [("function", name), ("invoked", toString report.invoked)]
      have ran : (touchNoting callback (name :: rest)).run state =
          (touchNoting callback rest).run (told .none state) := by
        show (touchNoting callback rest).run
          (told ((Context.touch callback name).run state).1
            ((Context.touch callback name).run state).2) = _
        rw [touch_unwatched nobody]
      rcases @induction (told .none state) nobody with ⟨journal, others⟩
      exact ⟨journal, ran.trans others⟩

theorem notifyTop_unwatched (names : List String) :
    ∃ journal, (notifyTop names : Action Unit).run state = ((), { state with journal }) := by
  let deeper : State := { state with data := { state.data with depth := state.data.depth + 1 } }
  let callback : host.Callback → Action Outcome := runController (notify (cascadeLimit - 1))
  rcases @touchNoting_unwatched deeper nobody callback names with ⟨journal, touched⟩
  refine ⟨journal, ?_⟩
  rw [notifyTop, notify_of_pos (by decide)]
  show (changeDepth (· - 1) : Action Unit).run ((touchNoting callback names).run deeper).2 = _
  rw [touched]
  rfl

/-- The board changes as it should, and nothing else happens. -/
theorem Mutation.run_unwatched (mutation : Mutation) :
    ∃ journal,
      (mutation.run notifyTop : Action Unit).run state =
        ((), { state with
          journal, data := { state.data with board := mutation.change state.data.board } }) := by
  rw [run_eq, run_changeBoard_bind]
  split
  · exact ⟨state.journal, rfl⟩
  · exact @notifyTop_unwatched
      { state with data := { state.data with board := mutation.change state.data.board } } nobody _

theorem forEach_unwatched {Item : Type} {action : Item → Action Unit} {mutation : Item → Mutation}
    (same : ∀ item, action item = (mutation item).run notifyTop) (items : List Item) :
    ∃ journal,
      (forEach action items).run state =
        ((), { state with
          journal
          data := { state.data with
            board := state.data.board.changed (items.map mutation) } }) := by
  induction items generalizing state with
  | nil => exact ⟨state.journal, rfl⟩
  | cons item rest induction =>
      rcases (mutation item).run_unwatched nobody with ⟨early, first⟩
      let changed : State := { state with
        journal := early
        data := { state.data with board := (mutation item).change state.data.board } }
      rcases @induction changed nobody with ⟨journal, others⟩
      refine ⟨journal, ?_⟩
      show (forEach action rest).run ((action item).run state).2 = _
      rw [same, first]
      exact others

theorem seed_unwatched (scenario : Scenario) :
    ∃ journal,
      (seed scenario.flags scenario.counters : Action Unit).run state =
        ((), { state with
          journal
          data := { state.data with board := state.data.board.changed scenario.mutations } }) := by
  let raised : String × Int → Mutation := fun counter => .addCounter counter.1 counter.2
  let setting : String → Action Unit := setFlag notifyTop
  let raising : String × Int → Action Unit := fun counter =>
    addCounter notifyTop counter.1 counter.2
  rcases @forEach_unwatched state nobody _ setting .setFlag (fun _ => rfl) scenario.flags with
    ⟨early, flags⟩
  let flagged : State := { state with
    journal := early
    data := { state.data with
      board := state.data.board.changed (scenario.flags.map .setFlag) } }
  rcases @forEach_unwatched flagged nobody _ raising raised (fun _ => rfl) scenario.counters with
    ⟨journal, counters⟩
  refine ⟨journal, ?_⟩
  rw [Scenario.mutations, Board.changed, List.foldl_append]
  show (forEach raising scenario.counters).run ((forEach setting scenario.flags).run state).2 = _
  rw [flags]
  exact counters

end Unwatched

end Vigil.Simulation
