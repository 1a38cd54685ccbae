import Vigil.Proofs.Simulation.Recording

/-!
# Cascades

Controllers set each other off, and two of them may do so for ever.  What ends a cascade is the
count of the notifications that are running: one that finds too many is dropped.

The host spends `room` instead of counting.  This comes to the same: a recursion that counts has
one solution, by `eq_notifyWithin`, and it is to spend the room that the count leaves.  The moments
of a run show how its notifications are nested, and `Cascade` reads them so.
-/

namespace Vigil.Simulation

/-! ## Nested notifications -/

/-- A state once the depth of notifications has changed. -/
def atDepth (change : Nat → Nat) (state : State) : State :=
  { state with data := { state.data with depth := change state.data.depth } }

/-- A state in which it is noted that one more notification is dropped. -/
def warned (names : List String) (state : State) : State :=
  (atDepth (· + 1) state).log .warn "notification cascade too deep, dropping"
    [("depth", toString state.data.depth), ("names", Text.quotedList names)]

/--
The moments from one state to another, where no more than `room` notifications are dispatched
inside one another.  A notification without room is dropped: all that it writes is a warning.
-/
inductive Cascade : (room : Nat) → State → List State → State → Prop
  | nothing (room : Nat) (state : State) : Cascade room state [] state
  | write {room : Nat} {state later final : State} {moments : List State}
      (level : later.data.depth = state.data.depth)
      (rest : Cascade room later moments final) :
      Cascade room state (later :: moments) final
  | dispatch {room : Nat} {state last final : State} {inside moments : List State}
      (nested : Cascade room (atDepth (· + 1) state) inside last)
      (rest : Cascade (room + 1) (atDepth (· - 1) last) moments final) :
      Cascade (room + 1) state
        (atDepth (· + 1) state :: (inside ++ atDepth (· - 1) last :: moments)) final
  | drop {state final : State} {moments : List State} (names : List String)
      (rest : Cascade 0 (atDepth (· - 1) (warned names state)) moments final) :
      Cascade 0 state
        (atDepth (· + 1) state :: warned names state ::
          atDepth (· - 1) (warned names state) :: moments) final

namespace Cascade

variable {room : Nat} {start middle final : State} {earlier later : List State}

theorem append (first : Cascade room start earlier middle)
    (second : Cascade room middle later final) : Cascade room start (earlier ++ later) final := by
  induction first with
  | nothing => exact second
  | write level _ induction => exact .write level (induction second)
  | dispatch nested _ _ induction =>
      rw [List.cons_append, List.append_assoc, List.cons_append]
      exact .dispatch nested (induction second)
  | drop names _ induction => exact .drop names (induction second)

/-- Whatever happens in a cascade, the depth is in the end what it was. -/
theorem depth_eq (cascade : Cascade room start earlier final) :
    final.data.depth = start.data.depth := by
  induction cascade with
  | nothing => rfl
  | write level _ induction => exact induction.trans level
  | @dispatch _ state last final _ _ _ _ nested rest =>
      calc final.data.depth
        _ = last.data.depth - 1 := rest
        _ = state.data.depth + 1 - 1 := congrArg (· - 1) nested
        _ = state.data.depth := rfl
  | drop names _ induction => exact induction

end Cascade

/-! ## Actions that come back to their depth -/

/-- From states of a depth two actions do the same, and their moments are a cascade. -/
def Recorded.Balanced {α : Type} (depth room : Nat) (action other : Recorded α) : Prop :=
  ∀ start : State, start.data.depth = depth →
    other.run start = action.run start ∧
      Cascade room start (action.run start).moments (action.run start).final

namespace Recorded.Balanced

variable {α β : Type} {depth room : Nat}

/-- Nothing is written. -/
theorem of_silent {action : Recorded α}
    (silent : ∀ start, ∃ result, action.run start = ⟨result, start, []⟩) :
    Balanced depth room action action := by
  intro start _
  rcases silent start with ⟨result, ran⟩
  rw [ran]
  exact ⟨rfl, .nothing room start⟩

theorem bind {action other : Recorded α} {next next' : α → Recorded β}
    (first : Balanced depth room action other)
    (second : ∀ result, Balanced depth room (next result) (next' result)) :
    Balanced depth room (action >>= next) (other >>= next') := by
  intro start level
  rcases first start level with ⟨same, cascade⟩
  rcases second _ _ (cascade.depth_eq.trans level) with ⟨same', cascade'⟩
  refine ⟨?_, cascade.append cascade'⟩
  show Recording.mk _ _ _ = Recording.mk _ _ _
  rw [same, same']

end Recorded.Balanced

/-- What the host does keeps the balance, if its notifications do. -/
def balanced (depth room : Nat) : StateRelation Recorded Recorded where
  Holds := Recorded.Balanced depth room
  holds_pure := fun result => .of_silent fun _ => ⟨result, rfl⟩
  holds_bind := .bind
  holds_get := .of_silent fun start => ⟨start, rfl⟩
  holds_modifyGet := fun _ level start _ => ⟨rfl, .write (level start) (.nothing room _)⟩
  holds_evaluate := fun expression =>
    .of_silent fun start => ⟨_, evaluate_recorded expression start⟩

/-! ## Notifications -/

/-- Touch functions inside one more notification. -/
def dispatch (notify : Notifier Recorded) : Notifier Recorded := fun names => do
  changeDepth (· + 1)
  touchNoting (runController notify) names
  changeDepth (· - 1)

theorem dispatch_run (notify : Notifier Recorded) (names : List String) (start : State) :
    (dispatch notify names).run start =
      let inside := (touchNoting (runController notify) names).run (atDepth (· + 1) start)
      ⟨(), atDepth (· - 1) inside.final,
        atDepth (· + 1) start :: (inside.moments ++ [atDepth (· - 1) inside.final])⟩ :=
  rfl

theorem dispatch_balanced {depth room : Nat} {notify other : Notifier Recorded}
    (same : ∀ names, Recorded.Balanced (depth + 1) room (notify names) (other names))
    (names : List String) :
    Recorded.Balanced depth (room + 1) (dispatch notify names) (dispatch other names) := by
  intro start level
  let relation := balanced (depth + 1) room
  have inside := relation.touchNoting (relation.runController same) names
  rcases inside (atDepth (· + 1) start) (congrArg (· + 1) level) with ⟨touched, cascade⟩
  rw [dispatch_run, dispatch_run, touched]
  exact ⟨rfl, .dispatch cascade (.nothing _ _)⟩

theorem notify_balanced (depth room : Nat) (names : List String) :
    Recorded.Balanced depth room (notify room names) (notify room names) := by
  induction room generalizing depth names with
  | zero => exact fun start _ => ⟨rfl, .drop names (.nothing 0 _)⟩
  | succ room induction => exact dispatch_balanced (induction (depth + 1)) names

/-! ## Counting notifications -/

/-- One round of a notification that counts how deep it is nested. -/
def counting (notify : Notifier Recorded) : Notifier Recorded := fun names => do
  let state ← getThe State
  changeDepth (· + 1)
  if cascadeLimit ≤ state.data.depth then
    Context.report host .warn "notification cascade too deep, dropping"
      [("depth", toString state.data.depth), ("names", Text.quotedList names)]
  else
    touchNoting (runController notify) names
  changeDepth (· - 1)

/-- A notification with as much room as the depth leaves. -/
def notifyWithin : Notifier Recorded := fun names => do
  let state ← getThe State
  notify (cascadeLimit - state.data.depth) names

section Counting

variable {notify : Notifier Recorded} {start : State}

theorem counting_of_le (deep : cascadeLimit ≤ start.data.depth) (names : List String) :
    (counting notify names).run start = (Simulation.notify 0 names : Recorded Unit).run start := by
  have looked : (getThe State : Recorded State).run start = ⟨start, start, []⟩ := rfl
  rw [counting, Recorded.run_bind looked, if_pos deep]
  rfl

theorem counting_of_lt (shallow : start.data.depth < cascadeLimit) (names : List String) :
    (counting notify names).run start = (dispatch notify names).run start := by
  have looked : (getThe State : Recorded State).run start = ⟨start, start, []⟩ := rfl
  rw [counting, Recorded.run_bind looked, if_neg (Nat.not_le.mpr shallow)]
  rfl

theorem notifyWithin_run (names : List String) :
    (notifyWithin names).run start =
      (Simulation.notify (cascadeLimit - start.data.depth) names : Recorded Unit).run start :=
  rfl

end Counting

/-- The room that is left makes up for the depth. -/
theorem notifyWithin_balanced {depth room : Nat} (total : depth + room = cascadeLimit)
    (names : List String) :
    Recorded.Balanced depth room (notify room names) (notifyWithin names) := by
  intro start level
  have left : cascadeLimit - start.data.depth = room := by omega
  refine ⟨?_, (notify_balanced depth room names start level).2⟩
  rw [notifyWithin_run, left]

theorem notifyWithin_eq_counting : notifyWithin = counting notifyWithin := by
  funext names
  refine congrArg Recorded.mk (funext fun start => ?_)
  show (notifyWithin names).run start = (counting notifyWithin names).run start
  rw [notifyWithin_run]
  cases left : cascadeLimit - start.data.depth with
  | zero => rw [counting_of_le (Nat.sub_eq_zero_iff_le.mp left)]
  | succ room =>
      rw [counting_of_lt (by omega)]
      have total : start.data.depth + 1 + room = cascadeLimit := by omega
      exact (dispatch_balanced (notifyWithin_balanced total) names start rfl).1.symm

/-- Whoever counts does the same as who spends the room that is left. -/
theorem eq_counting_balanced {notify : Notifier Recorded} (counts : notify = counting notify)
    {depth room : Nat} (total : depth + room = cascadeLimit) (names : List String) :
    Recorded.Balanced depth room (Simulation.notify room names) (notify names) := by
  induction room generalizing depth names with
  | zero =>
      intro start level
      refine ⟨?_, (notify_balanced depth 0 names start level).2⟩
      rw [counts, counting_of_le (by omega)]
  | succ room induction =>
      intro start level
      rw [counts, counting_of_lt (by omega)]
      exact dispatch_balanced (induction (by omega)) names start level

theorem eq_notifyWithin {notify : Notifier Recorded} (counts : notify = counting notify) :
    notify = notifyWithin := by
  funext names
  refine congrArg Recorded.mk (funext fun start => ?_)
  show (notify names).run start = (notifyWithin names).run start
  rcases Nat.lt_or_ge start.data.depth cascadeLimit with shallow | deep
  · have total : start.data.depth + (cascadeLimit - start.data.depth) = cascadeLimit := by omega
    exact (eq_counting_balanced counts total names start rfl).1
  · rw [counts, notifyWithin_run, counting_of_le deep, Nat.sub_eq_zero_of_le deep]

end Vigil.Simulation
