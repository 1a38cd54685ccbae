import Vigil.Context.Delivery
import Vigil.Proofs.Expr.Correspondence

/-!
# Delivery on two sides

What a context does with the code of a host can be compared from one run to another: two contexts
may differ in whatever delivery does not look at, two monads may keep more or less of a run, and
callbacks may be run in two ways.  A `ContextRelation` says what is to correspond.  It is enough
that looks at contexts that are alike correspond and that entries may be added to both journals;
then touches, events and ticks correspond wherever callbacks do.
-/

namespace Vigil

/-- The texts that delivery writes to the journal. -/
def Context.deliveryMessages : List String :=
  ["condition callback failed", "condition callback panicked", "touch",
    "event has no bindings", "firing event"]

/--
A relation between actions on contexts.  Contexts that are alike have the same functions,
subscribers and event bindings, and whatever is told does not make them unlike.
-/
structure ContextRelation (host : Host) (m n : Type → Type) [Monad m] [Monad n]
    [MonadStateOf (Context host) m] [MonadStateOf (Context host) n] extends
    ActionRelation m n where
  Alike : Context host → Context host → Prop
  registry_eq : ∀ {context context'}, Alike context context' → context'.registry = context.registry
  watcher_eq : ∀ {context context'}, Alike context context' → context'.watcher = context.watcher
  events_eq : ∀ {context context'}, Alike context context' → context'.events = context.events
  holds_look : ∀ {α : Type} {next : Context host → m α} {next' : Context host → n α},
    (∀ context context', Alike context context' → Holds (next context) (next' context')) →
      Holds (getThe (Context host) >>= next) (getThe (Context host) >>= next')
  Told : String → Prop
  told_of_delivery : ∀ message ∈ Context.deliveryMessages, Told message
  holds_report : ∀ {message : String}, Told message →
    ∀ (level : Log.Level) (fields : List (String × String)),
      Holds (Context.report host level message fields : m Unit)
        (Context.report host level message fields)

namespace ContextRelation

variable {host : Host} {m n : Type → Type} [Monad m] [Monad n]
variable [MonadStateOf (Context host) m] [MonadStateOf (Context host) n]
variable (relation : ContextRelation host m n)

/-! ## Evaluation -/

/-- Expressions correspond if the sensors that they call do. -/
theorem evaluate
    (map : ∀ {α β : Type} (change : α → β) {action : m α} {action' : n α},
      relation.Holds action action' → relation.Holds (change <$> action) (change <$> action'))
    {sensor : Context.SensorRunner host m} {sensor' : Context.SensorRunner host n}
    (same : ∀ code arguments, relation.Holds (sensor code arguments) (sensor' code arguments))
    (expression : Expression) :
    relation.Holds (Context.evaluate sensor expression) (Context.evaluate sensor' expression) := by
  let correspondence : Correspondence m n := ⟨relation.toActionRelation, map⟩
  refine correspondence.evaluate (fun name => ?_) same expression.tree
  refine relation.holds_look fun context context' alike => ?_
  rw [relation.registry_eq alike]
  exact relation.holds_pure _

/-! ## Touches -/

section Touches

variable {callback : host.Callback → m Outcome} {callback' : host.Callback → n Outcome}

theorem notify {subscription : Subscription host.Callback}
    (same : relation.Holds (callback subscription.callback) (callback' subscription.callback))
    (name : String) :
    relation.Holds (Context.notify callback name subscription)
      (Context.notify callback' name subscription) := by
  refine relation.holds_look fun context context' alike => ?_
  rw [relation.watcher_eq alike]
  split
  · refine relation.holds_bind same fun outcome => ?_
    cases outcome with
    | done => exact relation.holds_pure _
    | failed message =>
        have told := relation.told_of_delivery "condition callback failed" (by decide)
        exact relation.holds_bind (relation.holds_report told _ _) fun _ => relation.holds_pure _
    | panicked message? =>
        have told := relation.told_of_delivery "condition callback panicked" (by decide)
        exact relation.holds_bind (relation.holds_report told _ _) fun _ => relation.holds_pure _
  · exact relation.holds_pure _

theorem notifyAll {subscriptions : List (Subscription host.Callback)}
    (same : ∀ subscription ∈ subscriptions,
      relation.Holds (callback subscription.callback) (callback' subscription.callback))
    (name : String) :
    relation.Holds (Context.notifyAll callback name subscriptions)
      (Context.notifyAll callback' name subscriptions) := by
  induction subscriptions with
  | nil => exact relation.holds_pure _
  | cons subscription rest induction =>
      have others := induction fun other member => same other (List.mem_cons_of_mem _ member)
      have first := relation.notify (same subscription List.mem_cons_self) name
      refine relation.holds_bind first fun first => ?_
      exact relation.holds_bind others fun others => relation.holds_pure _

/-- All callbacks that alike contexts have subscribed correspond. -/
def Serves (callback : host.Callback → m Outcome) (callback' : host.Callback → n Outcome) : Prop :=
  ∀ context context', relation.Alike context context' →
    ∀ name, ∀ subscription ∈ context.watcher.subscribers name,
      relation.Holds (callback subscription.callback) (callback' subscription.callback)

variable (serves : relation.Serves callback callback')
include serves

theorem touch (name : String) :
    relation.Holds (Context.touch callback name) (Context.touch callback' name) := by
  refine relation.holds_look fun context context' alike => ?_
  rw [relation.watcher_eq alike]
  dsimp only
  split
  · exact relation.holds_pure _
  · have told := relation.told_of_delivery "touch" (by decide)
    refine relation.holds_bind (relation.holds_report told _ _) fun _ => ?_
    exact relation.notifyAll (serves context context' alike name) name

theorem touchAll (names : List String) :
    relation.Holds (Context.touchAll callback names) (Context.touchAll callback' names) := by
  induction names with
  | nil => exact relation.holds_pure _
  | cons name rest induction =>
      refine relation.holds_bind (relation.touch serves name) fun first => ?_
      exact relation.holds_bind induction fun others => relation.holds_pure _

theorem fireEvent (event : String) :
    relation.Holds (Context.fireEvent callback event) (Context.fireEvent callback' event) := by
  refine relation.holds_look fun context context' alike => ?_
  rw [relation.events_eq alike]
  split
  · have told := relation.told_of_delivery "event has no bindings" (by decide)
    exact relation.holds_bind (relation.holds_report told _ _) fun _ => relation.holds_pure _
  · have told := relation.told_of_delivery "firing event" (by decide)
    refine relation.holds_bind (relation.holds_report told _ _) fun _ => ?_
    exact relation.touchAll serves _

end Touches

/-! ## Ticks -/

section Ticks

variable {probe : host.Probe → m Value} {probe' : host.Probe → n Value}
variable (sampled : ∀ code, relation.Holds (probe code) (probe' code))
include sampled

theorem sampleAll (probes : List (Probe host.Probe)) :
    relation.Holds (Context.sampleAll probe probes) (Context.sampleAll probe' probes) := by
  induction probes with
  | nil => exact relation.holds_pure _
  | cons item rest induction =>
      refine relation.holds_bind (sampled item.code) fun sample => ?_
      exact relation.holds_bind induction fun samples => relation.holds_pure _

/-- Ticks correspond where the same probes find the same changes. -/
theorem tick
    (probes : ∀ {context context'}, relation.Alike context context' →
      context'.poller.probes = context.poller.probes)
    (observed : ∀ samples : List (String × Value),
      relation.Holds (modifyGetThe (Context host) (·.observeAll samples) : m (List String))
        (modifyGetThe (Context host) (·.observeAll samples)))
    {callback : host.Callback → m Outcome} {callback' : host.Callback → n Outcome}
    (serves : relation.Serves callback callback') :
    relation.Holds (Context.tick probe callback) (Context.tick probe' callback') := by
  refine relation.holds_look fun context context' alike => ?_
  rw [probes alike]
  refine relation.holds_bind (relation.sampleAll sampled _) fun samples => ?_
  refine relation.holds_bind (observed samples) fun changed => ?_
  exact relation.holds_bind (relation.touchAll serves changed) fun _ => relation.holds_pure _

end Ticks

end ContextRelation

end Vigil
