import Vigil.Proofs.Simulation.Room

/-!
# Twin states

Two runs of one scenario, one where the sum of the counters is pushed and one where it is polled, go
through states that are twins: they agree on all that conditions, controllers and subscriptions look
at, and differ in strategies, probes, journals and depths.  Whatever changes no counter and asks for
no sample leads from twins to twins.
-/

namespace Vigil.Simulation

/--
States of a pushed run and of a polled one.  These are the counters of both, and this is what the
probe of the polled run has found last.
-/
structure Twins (counters : Table String Int) (last? : Option Value) (pushed polled : State) :
    Prop where
  registry : polled.registry = pushed.registry
  cache : polled.cache = pushed.cache
  watcher : polled.watcher = pushed.watcher
  events : polled.events = pushed.events
  board : polled.data.board = pushed.data.board
  counters : pushed.data.board.counters = counters
  push : pushed.strategyOf BoardSensor.counterTotal.name = .push
  poll : polled.strategyOf BoardSensor.counterTotal.name = .poll
  probes : polled.poller.probes = [⟨BoardSensor.counterTotal.name, .counterTotal, last?⟩]

/-- Two actions come to the same in twins, and they lead to twins. -/
def Together (counters : Table String Int) (last? : Option Value) {α : Type}
    (action other : Action α) : Prop :=
  ∀ pushed polled, Twins counters last? pushed polled →
    (other.run polled).1 = (action.run pushed).1 ∧
      Twins counters last? (action.run pushed).2 (other.run polled).2

namespace Together

variable {counters : Table String Int} {last? : Option Value} {α β : Type}

theorem bind {action action' : Action α} {next next' : α → Action β}
    (first : Together counters last? action action')
    (second : ∀ result, Together counters last? (next result) (next' result)) :
    Together counters last? (action >>= next) (action' >>= next') :=
  Respects.bind first second

/-- What does not concern the counters and the poller may be changed on both sides. -/
theorem modifyGet {change change' : State → α × State}
    (twins : ∀ pushed polled, Twins counters last? pushed polled →
      (change' polled).1 = (change pushed).1 ∧
        Twins counters last? (change pushed).2 (change' polled).2) :
    Together counters last? (modifyGetThe State change : Action α) (modifyGetThe State change') :=
  twins

theorem report (level : Log.Level) (message : String) (fields fields' : List (String × String)) :
    Together counters last? (Context.report host level message fields : Action Unit)
      (Context.report host level message fields') :=
  fun _ _ twins => ⟨rfl, { twins with }⟩

theorem changeDepth (change : Nat → Nat) :
    Together counters last? (Simulation.changeDepth change : Action Unit)
      (Simulation.changeDepth change) :=
  fun _ _ twins => ⟨rfl, { twins with }⟩

theorem changeBoard (change : Board → Board)
    (same : ∀ board, (change board).counters = board.counters) :
    Together counters last? (Simulation.changeBoard change : Action Unit)
      (Simulation.changeBoard change) :=
  fun _ _ twins => ⟨rfl, { twins with
    board := congrArg change twins.board
    counters := (same _).trans twins.counters }⟩

end Together

/-- What the host does comes to the same in twins, if its notifications do. -/
def together (counters : Table String Int) (last? : Option Value) : HostRelation Action Action where
  Holds := Together counters last?
  holds_pure := fun _ _ _ twins => ⟨rfl, twins⟩
  holds_bind := .bind
  Alike := Twins counters last?
  registry_eq := Twins.registry
  watcher_eq := Twins.watcher
  events_eq := Twins.events
  holds_look := fun further pushed polled twins => further pushed polled twins pushed polled twins
  Told := fun _ => True
  told_of_delivery := fun _ _ => trivial
  holds_report := fun _ level fields => .report level _ fields fields
  board_eq := Twins.board
  told_of_host := fun _ _ => trivial
  holds_evaluate := fun expression pushed polled twins => by
    rw [evaluate_run, evaluate_run, twins.registry, twins.board]
    exact ⟨rfl, twins⟩

section Phases

variable {counters : Table String Int} {last? : Option Value}

theorem notify_together (room : Nat) (names : List String) :
    Together counters last? (notify room names) (notify room names) := by
  induction room generalizing names with
  | zero => exact fun _ _ twins => ⟨rfl, { twins with }⟩
  | succ room induction =>
      have serves := (together counters last?).serves .changeBoard induction
      have touched := (together counters last?).touchNoting serves names
      exact .bind (.changeDepth _) fun _ => .bind touched fun _ => .changeDepth _

theorem compile_together (source : String) :
    Together counters last? (modifyGetThe State (Context.compile · source))
      (modifyGetThe State (Context.compile · source)) := by
  refine .modifyGet fun pushed polled twins => ?_
  rw [Context.compile, Context.compile, Context.parse, Context.parse, twins.cache, twins.registry]
  dsimp only
  split
  · exact ⟨rfl, { twins with registry := rfl, cache := rfl }⟩
  · split
    · exact ⟨rfl, { twins with registry := rfl, cache := rfl }⟩
    · exact ⟨rfl, { twins with registry := rfl, cache := rfl }⟩

theorem subscribe_together (source : String) (active : Active) :
    Together counters last? (modifyGetThe State (Context.subscribe · source active))
      (modifyGetThe State (Context.subscribe · source active)) := by
  refine .modifyGet fun pushed polled twins => ?_
  rw [Context.subscribe, Context.subscribe, twins.watcher]
  cases Token.namesIn source with
  | error error => exact ⟨rfl, twins⟩
  | ok names =>
      dsimp only
      split
      · exact ⟨rfl, { twins with watcher := rfl }⟩
      · exact ⟨rfl, { twins with watcher := rfl }⟩

theorem subscribeController_together (controller : Controller) :
    Together counters last? (subscribeController controller) (subscribeController controller) := by
  refine .bind (compile_together controller.condition) fun compiled => ?_
  cases compiled with
  | error error => exact (together counters last?).holds_pure _
  | ok parsed =>
      refine .bind (subscribe_together controller.condition _) fun id => ?_
      cases id <;> exact (together counters last?).holds_pure _

theorem activation_together (controller : Controller) :
    Together counters last? (Phase.activation controller).run
      (Phase.activation controller).run := by
  let relation := together counters last?
  have top := @notify_together counters last? cascadeLimit
  have subscribed := @subscribeController_together counters last? controller
  refine .bind (relation.activate .changeBoard top subscribed) fun _ => ?_
  exact relation.holds_pure ()

end Phases

end Vigil.Simulation
