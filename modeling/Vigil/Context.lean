import Vigil.Context.ParseCache
import Vigil.Expr.Evaluate
import Vigil.Log.Entry
import Vigil.Watch.EventBindings
import Vigil.Watch.Poller
import Vigil.Watch.Watcher

/-!
# Contexts

A context holds all that a host program needs to evaluate expressions and to learn of changes:
the functions, the parse cache, the watcher, the event bindings, the probes, and a journal of
its own work. The host plugs in code of three kinds, sensors, callbacks and probes, and may keep
data of its own beside the rest.

This module holds the operations that run none of this code. They are functions from a context
to an answer and the context afterwards.
-/

namespace Vigil

/-- The kinds of code that a host program plugs into a context, and the data that it keeps. -/
structure Host where
  Sensor : Type
  Callback : Type
  Probe : Type
  Data : Type

/-- The state of a context. The journal is kept oldest entry first. -/
structure Context (host : Host) where
  registry : Registry host.Sensor
  cache : ParseCache
  watcher : Watcher host.Callback
  events : EventBindings
  poller : Poller host.Probe
  journal : Array Log.Entry
  data : host.Data

/-- Why a text has no value: it is no expression, or its evaluation fails. -/
inductive ConditionError where
  | invalid (error : SyntaxError)
  | evaluation (error : EvalError)
deriving DecidableEq, Repr

/-- The wording of an error of a text. -/
def ConditionError.message : ConditionError → String
  | invalid error => error.message
  | evaluation error => error.message

namespace Context

variable {host : Host}

/-- The number of expressions that are kept where nothing else is configured. -/
def defaultCapacity : Nat := 256

/-- A context without functions, subscriptions and probes. -/
def new
    (capacity : Nat)
    (events : EventBindings)
    (strategies : StrategyTable)
    (data : host.Data) : Context host where
  registry := .empty
  cache := .new capacity
  watcher := .empty
  events := events
  poller := .new strategies
  journal := #[]
  data := data

/-- Add an entry to the journal. -/
def log
    (context : Context host)
    (level : Log.Level)
    (message : String)
    (fields : List (String × String)) : Context host :=
  { context with journal := context.journal.push ⟨level, message, fields⟩ }

/-! ## Functions -/

/-- Register a function of the host. -/
def register
    (context : Context host)
    (name : String)
    (arity : Nat)
    (code : host.Sensor) : Except RegistryError Unit × Context host :=
  match context.registry.register ⟨name, arity, .host code⟩ with
  | .error error => (.error error, context)
  | .ok registry =>
    (.ok (),
      { context with registry }.log .debug "function registered"
        [("function", name), ("arity", toString arity)])

/-- Register the built-in functions, up to the first whose name is taken. -/
def registerBuiltins (context : Context host) : Except RegistryError Unit × Context host :=
  let (registry, outcome) := context.registry.registerBuiltins
  (outcome, { context with registry })

/-! ## Expressions -/

/-- Read an expression, or find it in the cache. -/
def parse (context : Context host) (source : String) :
    Except SyntaxError Parsed × Context host :=
  let (outcome, cache) := context.cache.parse source
  (outcome, { context with cache })

/-- Read an expression and check its calls against the registered functions. -/
def compile (context : Context host) (source : String) :
    Except ConditionError Parsed × Context host :=
  let (outcome, context) := context.parse source
  match outcome with
  | .error error => (.error (.invalid error), context)
  | .ok parsed =>
    match parsed.expression.tree.check context.registry with
    | .error error => (.error (.evaluation error), context)
    | .ok () => (.ok parsed, context)

/-! ## Subscriptions -/

/--
Watch every function that a text mentions. The text need not be an expression, it need only
consist of tokens. After unloading this still answers a new number, which is never notified.
-/
def subscribe
    (context : Context host)
    (source : String)
    (callback : host.Callback) : Except SyntaxError SubscriptionId × Context host :=
  match Token.namesIn source with
  | .error error => (.error error, context)
  | .ok names =>
    let (id, watcher) := context.watcher.subscribe names callback
    let subscribed := { context with watcher }
    if context.watcher.unloaded then
      (.ok id,
        subscribed.log .debug "watcher unloaded, subscription will never fire"
          [("subscription", SubscriptionId.label id)])
    else
      (.ok id,
        subscribed.log .debug "subscribed"
          [("subscription", SubscriptionId.label id), ("names", Text.quotedList names)])

/-- Remove a subscription, and tell whether there was one. -/
def unsubscribe (context : Context host) (id : SubscriptionId) : Bool × Context host :=
  let (removed, watcher) := context.watcher.unsubscribe id
  let context := { context with watcher }
  if removed then
    (true, context.log .debug "unsubscribed" [("subscription", SubscriptionId.label id)])
  else
    (false, context)

/-! ## Sources of change -/

/-- Let an event touch some functions. After unloading nothing is bound any more. -/
def bindEvent (context : Context host) (event : String) (names : List String) : Context host :=
  if context.watcher.unloaded then context
  else { context with events := context.events.bind event names }

/-- How changes of a sensor are noticed. -/
def strategyOf (context : Context host) (sensor : String) : Strategy :=
  context.poller.strategies.strategyOf sensor

/-- Sample a sensor at every tick. After unloading the probe is not kept. -/
def addProbe
    (context : Context host)
    (sensor : String)
    (code : host.Probe) : Except ProbeError Unit × Context host :=
  if context.watcher.unloaded then
    (.ok (), context)
  else
    match context.poller.add sensor code with
    | .error error => (.error error, context)
    | .ok poller =>
      (.ok (), { context with poller }.log .debug "probe registered" [("sensor", sensor)])

/-- Drop all subscriptions, bindings and probes for good. -/
def unload (context : Context host) : Context host :=
  let dropped := context.watcher.subscriptionCount
  let context :=
    { context with watcher := context.watcher.unload }.log .info "condition watcher unloaded"
      [("subscriptions", toString dropped)]
  { context with events := context.events.clear, poller := context.poller.clear }

/-- How a context is shown for inspection. -/
def inspect (context : Context host) : String :=
  "Conditions \x7b functions: " ++ Text.quotedList context.registry.names ++ ", watcher: " ++
    context.watcher.inspect ++ ", poller: " ++ context.poller.inspect ++ ", .. \x7d"

end Context

end Vigil
