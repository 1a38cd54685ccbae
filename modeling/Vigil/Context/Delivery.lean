import Vigil.Context

/-!
# Evaluation and delivery in a context

The operations of a context that run code of the host program. What this code does to the
context is part of what the operations do, so they are actions of a monad that carries the
context as state, and they look at the context anew after every piece of foreign code.

A touch notifies those who watch a function: it takes the list of subscriptions as it stands,
and then, one by one and in that order, notifies those that are still live. A callback that fails
is reported in the journal and does not keep the others from being notified.
-/

namespace Vigil

/-- How a callback ended. A panic may come with a text. -/
inductive Outcome where
  | done
  | failed (message : String)
  | panicked (message? : Option String)
deriving DecidableEq, Repr

/-- What a touch did: callbacks run, those of them that failed, and subscriptions removed first. -/
structure TouchReport where
  invoked : Nat
  failed : Nat
  skipped : Nat
deriving DecidableEq, Repr

namespace TouchReport

/-- The report of a touch that nobody watches for. -/
def none : TouchReport := ⟨0, 0, 0⟩

/-- The report of two touches together. -/
def add (first second : TouchReport) : TouchReport :=
  ⟨first.invoked + second.invoked, first.failed + second.failed, first.skipped + second.skipped⟩

instance : Add TouchReport := ⟨add⟩

end TouchReport

namespace Context

variable {host : Host} {m : Type → Type} [Monad m] [MonadStateOf (Context host) m]

/-- Add an entry to the journal of the running context. -/
def report
    (host : Host) {m : Type → Type} [MonadStateOf (Context host) m]
    (level : Log.Level)
    (message : String)
    (fields : List (String × String)) : m Unit :=
  modifyThe (Context host) (·.log level message fields)

/-! ## Evaluation -/

/-- How the sensors of a host program answer. -/
abbrev SensorRunner (host : Host) (m : Type → Type) : Type :=
  host.Sensor → List Value → m (Except SensorFailure Value)

/-- The functions of the running context. -/
def environment (sensor : SensorRunner host m) : Environment m host.Sensor where
  lookup? := fun name => do
    let context ← getThe (Context host)
    pure (context.registry.lookup? name)
  call := sensor

/-- Evaluate an expression that has been read. -/
def evaluate (sensor : SensorRunner host m) (expression : Expression) :
    m (Except EvalError Value) :=
  (expression.tree.evaluate (environment sensor)).run

/-- Read a text and evaluate it. -/
def evaluateText (sensor : SensorRunner host m) (source : String) :
    m (Except ConditionError Value) := do
  match ← modifyGetThe (Context host) (·.parse source) with
  | .error error => pure (.error (.invalid error))
  | .ok parsed =>
    match ← evaluate sensor parsed.expression with
    | .error error => pure (.error (.evaluation error))
    | .ok value => pure (.ok value)

/-- Whether a text evaluates to the boolean `true`. -/
def isTrue (sensor : SensorRunner host m) (source : String) :
    m (Except ConditionError Bool) := do
  let outcome ← evaluateText sensor source
  pure (outcome.map Value.isTrue)

/-! ## Touching functions -/

/-- What is written where a panic has no text. -/
def unreadablePanic : String := "<non-string panic payload>"

/-- Notify one subscription about a function, if it is still live. -/
def notify
    (callback : host.Callback → m Outcome)
    (name : String)
    (subscription : Subscription host.Callback) : m TouchReport := do
  let context ← getThe (Context host)
  if context.watcher.isLive subscription.id then
    let subject := [("subscription", SubscriptionId.label subscription.id), ("function", name)]
    match ← callback subscription.callback with
    | .done => pure ⟨1, 0, 0⟩
    | .failed message =>
      report host .warn "condition callback failed" (subject ++ [("error", message)])
      pure ⟨1, 1, 0⟩
    | .panicked message? =>
      report host .error "condition callback panicked"
        (subject ++ [("panic", message?.getD unreadablePanic)])
      pure ⟨1, 1, 0⟩
  else
    pure ⟨0, 0, 1⟩

/-- Notify subscriptions about a function, one after the other. -/
def notifyAll (callback : host.Callback → m Outcome) (name : String) :
    List (Subscription host.Callback) → m TouchReport
  | [] => pure .none
  | subscription :: rest => do
    let first ← notify callback name subscription
    let others ← notifyAll callback name rest
    pure (first + others)

/-- Notify all who watch a function as the touch begins. -/
def touch (callback : host.Callback → m Outcome) (name : String) : m TouchReport := do
  let context ← getThe (Context host)
  let subscribers := context.watcher.subscribers name
  if context.watcher.unloaded || subscribers.isEmpty then
    pure .none
  else
    report host .trace "touch"
      [("function", name), ("subscribers", toString subscribers.length)]
    notifyAll callback name subscribers

/-- Touch functions one after the other. -/
def touchAll (callback : host.Callback → m Outcome) : List String → m TouchReport
  | [] => pure .none
  | name :: rest => do
    let first ← touch callback name
    let others ← touchAll callback rest
    pure (first + others)

/-- Touch the functions that an event is bound to. -/
def fireEvent (callback : host.Callback → m Outcome) (event : String) : m TouchReport := do
  let context ← getThe (Context host)
  match context.events.touches? event with
  | none =>
    report host .debug "event has no bindings" [("event", event)]
    pure .none
  | some names =>
    report host .debug "firing event"
      [("event", event), ("touches", Text.quotedList names)]
    touchAll callback names

/-! ## Ticks -/

/-- Sample probes one after the other. -/
def sampleAll (probe : host.Probe → m Value) :
    List (Probe host.Probe) → m (List (String × Value))
  | [] => pure []
  | item :: rest => do
    let sample ← probe item.code
    let samples ← sampleAll probe rest
    pure ((item.name, sample) :: samples)

/-- Compare samples with the probes of the context, and report those that are changes. -/
def observeAll (context : Context host) (samples : List (String × Value)) :
    List String × Context host :=
  let (changes, poller) := context.poller.observeAll samples
  let observed := { context with poller }
  (changes.map Prod.fst,
    changes.foldl
      (fun context (name, sample) =>
        context.log .trace "polled value changed" [("sensor", name), ("value", sample.display)])
      observed)

/-- Sample every probe, and touch those whose value has changed. -/
def tick
    (probe : host.Probe → m Value)
    (callback : host.Callback → m Outcome) : m (List String) := do
  let context ← getThe (Context host)
  let samples ← sampleAll probe context.poller.probes
  let changed ← modifyGetThe (Context host) (·.observeAll samples)
  let _ ← touchAll callback changed
  pure changed

end Context

end Vigil
