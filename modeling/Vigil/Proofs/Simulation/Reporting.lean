import Mathlib.Algebra.Ring.Int.Defs
import Vigil.Simulation.Host

/-!
# Which changes are reported

The host lets a change of the board be known by touching the functions that depend on it.  A change
that makes a difference to a sensor touches the sensor, with one exception: when nothing is added to
a counter that is absent, the counter starts from zero, and nothing is touched.
-/

namespace Vigil.Simulation

/-- A change of the board that the host offers. -/
inductive Mutation where
  | setFlag (name : String)
  | clearFlag (name : String)
  | addCounter (name : String) (amount : Int)
deriving DecidableEq, Repr

namespace Mutation

/-- Make a change, and let it be known. -/
def run {m : Type → Type} [Monad m] [MonadStateOf State m] (notify : Notifier m) :
    Mutation → m Unit
  | setFlag name => Simulation.setFlag notify name
  | clearFlag name => Simulation.clearFlag notify name
  | addCounter name amount => Simulation.addCounter notify name amount

/-- The change alone. -/
def change (mutation : Mutation) (board : Board) : Board :=
  match mutation with
  | setFlag name => if board.hasFlag name then board else board.setFlag name
  | clearFlag name => if board.hasFlag name then board.clearFlag name else board
  | addCounter name amount => board.addCounter name amount

/-- The functions that are touched, in this order. -/
def touched (mutation : Mutation) (state : State) : List String :=
  match mutation with
  | setFlag name => if state.data.board.hasFlag name then [] else flagFunctions
  | clearFlag name => if state.data.board.hasFlag name then flagFunctions else []
  | addCounter _ amount =>
    if amount = 0 then []
    else if state.strategyOf BoardSensor.counterTotal.name = .push then
      [BoardSensor.counter.name, BoardSensor.counterTotal.name]
    else
      [BoardSensor.counter.name]

/-- Nothing is added to a counter that is absent, which makes it zero. -/
def StartsCounter (mutation : Mutation) (board : Board) : Prop :=
  ∃ name, mutation = addCounter name 0 ∧ board.counters.get? name = none

variable (mutation : Mutation) (notify : Notifier Action) (start : State)

theorem run_look_bind (next : State → Action Unit) :
    (do next (← getThe State) : Action Unit).run start = (next start).run start :=
  rfl

theorem run_changeBoard_bind (change : Board → Board) (next : Action Unit) :
    (do changeBoard change; next : Action Unit).run start =
      next.run { start with data := { start.data with board := change start.data.board } } :=
  rfl

theorem run_eq :
    (mutation.run notify : Action Unit).run start =
      (do
        changeBoard mutation.change
        unless mutation.touched start = [] do
          notify (mutation.touched start) : Action Unit).run start := by
  cases mutation with
  | setFlag name =>
      rw [run, Simulation.setFlag, run_look_bind, run_changeBoard_bind, change, touched]
      cases start.data.board.hasFlag name <;> rfl
  | clearFlag name =>
      rw [run, Simulation.clearFlag, run_look_bind, run_changeBoard_bind, change, touched]
      cases start.data.board.hasFlag name <;> rfl
  | addCounter name amount =>
      rw [run, Simulation.addCounter, run_changeBoard_bind, run_changeBoard_bind, touched]
      by_cases zero : amount = 0
      · rw [if_neg (not_not_intro zero), if_pos zero]
        rfl
      · rw [if_pos zero, if_neg zero, run_look_bind]
        -- The look comes after the counter has changed, which no strategy depends on.
        show (if start.strategyOf BoardSensor.counterTotal.name = .push then _ else _ :
          Action Unit).run _ = _
        by_cases pushed : start.strategyOf BoardSensor.counterTotal.name = .push
        · rw [if_pos pushed, if_pos pushed]
          rfl
        · rw [if_neg pushed, if_neg pushed]
          rfl

end Mutation

/-! ## The sum of the counters -/

theorem sum_replaceIn {name : String} {before after : Int} {entries : List (String × Int)}
    (distinct : (entries.map Prod.fst).Nodup) (listed : (name, before) ∈ entries) :
    ((Table.replaceIn name after entries).map Prod.snd).sum =
      (entries.map Prod.snd).sum + (after - before) := by
  induction entries with
  | nil => cases listed
  | cons entry rest induction =>
      rcases List.nodup_cons.mp distinct with ⟨first, others⟩
      rw [List.map_cons, List.sum_cons]
      rcases List.mem_cons.mp listed with rfl | later
      · have replaced : Table.replaceIn name after ((name, before) :: rest) =
            (name, after) :: rest := by
          show (if name = name then _ else _) :: Table.replaceIn name after rest = _
          rw [if_pos rfl, Table.replaceIn_of_not_mem first]
        rw [replaced, List.map_cons, List.sum_cons]
        omega
      · have differs : entry.1 ≠ name := by
          rintro rfl
          exact first (List.mem_map.mpr ⟨_, later, rfl⟩)
        have replaced : Table.replaceIn name after (entry :: rest) =
            entry :: Table.replaceIn name after rest := by
          show (if entry.1 = name then _ else _) :: Table.replaceIn name after rest = _
          rw [if_neg differs]
        rw [replaced, List.map_cons, List.sum_cons, induction others later]
        omega

theorem Board.counterTotal_eq_sum (board : Board) :
    board.counterTotal = (board.counters.entries.map Prod.snd).sum := by
  rw [counterTotal, List.sum_eq_foldl, List.foldl_map]

/-- The sum grows by what is added to a counter, whether it was there or not. -/
theorem Board.counterTotal_addCounter (board : Board) (name : String) (amount : Int) :
    (board.addCounter name amount).counterTotal = board.counterTotal + amount := by
  rw [counterTotal_eq_sum, counterTotal_eq_sum, addCounter]
  cases found : board.counters.get? name with
  | some value =>
      have listed := Table.mem_entries_of_get? found
      have present : name ∈ board.counters.entries.map Prod.fst :=
        List.mem_map.mpr ⟨_, listed, rfl⟩
      rw [Table.put, dif_pos present, sum_replaceIn board.counters.distinct listed,
        Option.getD_some]
      omega
  | none =>
      rw [Table.entries_put_of_absent found, List.map_append, List.sum_append]
      simp

/-! ## What sensors look at -/

section Sensors

variable {before after : Board} {sensor : BoardSensor} {arguments : List Value}

theorem name_mem_flagFunctions
    (differs : sensor.answer after arguments ≠ sensor.answer before arguments)
    (counters : after.counters = before.counters) :
    sensor.name ∈ flagFunctions := by
  cases sensor with
  | flag => exact .head _
  | flagCount => exact .tail _ (.head _)
  | counter =>
      refine absurd ?_ differs
      rw [BoardSensor.answer, BoardSensor.answer, counters]
  | counterTotal =>
      refine absurd ?_ differs
      rw [BoardSensor.answer, BoardSensor.answer, Board.counterTotal, Board.counterTotal, counters]

theorem eq_counter_or_counterTotal
    (differs : sensor.answer after arguments ≠ sensor.answer before arguments)
    (flags : after.flags = before.flags) :
    sensor = .counter ∨ sensor = .counterTotal := by
  cases sensor with
  | flag =>
      have looked : after.hasFlag = before.hasFlag := by
        funext name
        exact congrArg (·.contains name) flags
      refine absurd ?_ differs
      rw [BoardSensor.answer, BoardSensor.answer, looked]
  | flagCount =>
      refine absurd ?_ differs
      rw [BoardSensor.answer, BoardSensor.answer, flags]
  | counter => exact .inl rfl
  | counterTotal => exact .inr rfl

end Sensors

/-- Nothing happens to a counter that is there if nothing is added. -/
theorem addCounter_zero_of_present {board : Board} {name : String} {value : Int}
    (present : board.counters.get? name = some value) : board.addCounter name 0 = board := by
  rw [Board.addCounter, present, Option.getD_some, Int.add_zero, Table.put_of_get? present]

namespace Mutation

/-- A change that makes a difference to a sensor touches it, unless it only starts a counter. -/
theorem name_mem_touched {mutation : Mutation} {start : State} {sensor : BoardSensor}
    {arguments : List Value}
    (pushed : sensor = .counterTotal →
      start.strategyOf BoardSensor.counterTotal.name ≠ .poll)
    (differs : sensor.answer (mutation.change start.data.board) arguments ≠
      sensor.answer start.data.board arguments) :
    sensor.name ∈ mutation.touched start ∨
      mutation.StartsCounter start.data.board ∧ sensor = .counter := by
  cases mutation with
  | setFlag name =>
      rw [touched]
      rw [change] at differs
      split at differs
      · exact absurd rfl differs
      · next unset =>
        rw [if_neg unset]
        exact .inl (name_mem_flagFunctions differs rfl)
  | clearFlag name =>
      rw [touched]
      rw [change] at differs
      split at differs
      · next set =>
        rw [if_pos set]
        exact .inl (name_mem_flagFunctions differs rfl)
      · exact absurd rfl differs
  | addCounter name amount =>
      rw [change] at differs
      have counting := eq_counter_or_counterTotal differs rfl
      by_cases zero : amount = 0
      · subst zero
        cases found : start.data.board.counters.get? name with
        | some value =>
            rw [addCounter_zero_of_present found] at differs
            exact absurd rfl differs
        | none =>
            refine .inr ⟨⟨name, rfl, found⟩, ?_⟩
            rcases counting with counter | total
            · exact counter
            · subst total
              refine absurd ?_ differs
              rw [BoardSensor.answer, BoardSensor.answer, Board.counterTotal_addCounter,
                Int.add_zero]
      · refine .inl ?_
        rw [touched, if_neg zero]
        rcases counting with rfl | rfl
        · split <;> exact .head _
        · have push : start.strategyOf BoardSensor.counterTotal.name = .push := by
            cases strategy : start.strategyOf BoardSensor.counterTotal.name with
            | push => rfl
            | poll => exact absurd strategy (pushed rfl)
          rw [if_pos push]
          exact .tail _ (.head _)

end Mutation

/-! ## Touches in a row -/

/-- Touch a function between others. -/
def touching (callback : host.Callback → Action Outcome) (earlier : List String) (name : String)
    (later : List String) : Action Unit := do
  touchNoting callback earlier
  let report ← Context.touch callback name
  Context.report host .debug "touched"
    [("function", name), ("invoked", toString report.invoked)]
  touchNoting callback later

theorem touchNoting_append (callback : host.Callback → Action Outcome) (earlier : List String)
    (name : String) (later : List String) :
    touchNoting callback (earlier ++ name :: later) = touching callback earlier name later := by
  induction earlier with
  | nil => rfl
  | cons first rest induction =>
      rw [List.cons_append, touchNoting, induction]
      simp only [touching, touchNoting, bind_assoc]

theorem notify_of_pos {room : Nat} (positive : 0 < room) (names : List String) :
    (notify room names : Action Unit) =
      (do
        changeDepth (· + 1)
        touchNoting (runController (notify (room - 1))) names
        changeDepth (· - 1)) := by
  cases room with
  | zero => cases positive
  | succ less => rfl

/--
If a change of the board makes a difference to a sensor, and notifications are not nested too
deeply, then the sensor is touched right after the change.  Only a counter that starts from zero
is not reported.
-/
theorem differences_are_touched
    (mutation : Mutation) {start : State} (below : start.data.depth < cascadeLimit)
    {sensor : BoardSensor} {arguments : List Value}
    (pushed : sensor = .counterTotal →
      start.strategyOf BoardSensor.counterTotal.name ≠ .poll)
    (differs : sensor.answer (mutation.change start.data.board) arguments ≠
      sensor.answer start.data.board arguments) :
    let room := cascadeLimit - start.data.depth
    (¬ mutation.StartsCounter start.data.board →
      ∃ earlier later,
        (mutation.run (notify room) : Action Unit).run start =
          (do
            changeBoard mutation.change
            changeDepth (· + 1)
            touching (runController (notify (room - 1))) earlier sensor.name later
            changeDepth (· - 1) : Action Unit).run start) ∧
    (mutation.StartsCounter start.data.board →
      sensor = .counter ∧
        (mutation.run (notify room) : Action Unit).run start =
          (changeBoard mutation.change : Action Unit).run start) := by
  intro room
  have positive : 0 < room := Nat.sub_pos_of_lt below
  have found := Mutation.name_mem_touched pushed differs
  constructor
  · intro unstarted
    rcases found with member | ⟨starts, -⟩
    · rcases List.append_of_mem member with ⟨earlier, later, split⟩
      refine ⟨earlier, later, ?_⟩
      have some : earlier ++ sensor.name :: later ≠ [] := by simp
      rw [Mutation.run_eq, split, if_neg some, notify_of_pos positive, touchNoting_append]
    · exact absurd starts unstarted
  · rintro ⟨name, rfl, absent⟩
    have untouched : (Mutation.addCounter name 0).touched start = [] := by
      rw [Mutation.touched, if_pos rfl]
    rcases found with member | ⟨-, counter⟩
    · rw [untouched] at member
      cases member
    · rw [Mutation.run_eq, untouched]
      exact ⟨counter, rfl⟩

/-- Nothing is set, and nobody watches. -/
def idle : State :=
  .new Context.defaultCapacity .empty .empty ⟨.empty, 0⟩

theorem differences_are_touched_first_flag :
    ∃ earlier later,
      ((Mutation.setFlag "a").run (notify cascadeLimit) : Action Unit).run idle =
        (do
          changeBoard (Mutation.setFlag "a").change
          changeDepth (· + 1)
          touching (runController (notify (cascadeLimit - 1))) earlier "flag" later
          changeDepth (· - 1) : Action Unit).run idle := by
  have differs :
      BoardSensor.flag.answer ((Mutation.setFlag "a").change idle.data.board) [.text "a"] ≠
        BoardSensor.flag.answer idle.data.board [.text "a"] := by
    intro same
    have values := congrArg Except.toOption same
    revert values
    decide +kernel
  have below : idle.data.depth < cascadeLimit := by decide
  have touched := @differences_are_touched (.setFlag "a") idle below .flag [.text "a"] nofun differs
  refine touched.1 ?_
  rintro ⟨name, ⟨⟩, -⟩

/-- A counter that starts from zero was absent before, and those who watch it are not told. -/
theorem counter_from_zero_is_not_touched :
    BoardSensor.counter.answer ((Mutation.addCounter "berries" 0).change idle.data.board)
        [.text "berries"] ≠
      BoardSensor.counter.answer idle.data.board [.text "berries"] ∧
    ((Mutation.addCounter "berries" 0).run notifyTop : Action Unit).run idle =
      (changeBoard (Mutation.addCounter "berries" 0).change : Action Unit).run idle := by
  constructor
  · intro same
    have values := congrArg Except.toOption same
    revert values
    decide +kernel
  · rfl

end Vigil.Simulation
