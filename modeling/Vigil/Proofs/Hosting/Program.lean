import Vigil.Context.Delivery

/-!
# Host programs

What a host program may do with a context.  Its code is a tree of requests: after each answer it
goes on as it likes, it may read the context and keep data of its own, and it may fail or panic.
A program says which code stands behind its sensors, callbacks and probes, so code can reach back
into the context that is running it, to any depth.

Programs can call themselves without end.  A run is therefore given a depth, and it halts where
code would be nested deeper; a run that ends before it is halted is a run that terminates.

The events of a run are kept beside the context.  They record what the watcher was asked to do and
which callbacks were started, and no code can change them.
-/

namespace Vigil.Hosting

variable {host : Host}

/-! ## Worlds -/

/-- What is recorded of a run. -/
inductive Event (host : Host) where
  /-- A subscription was given a number. -/
  | subscribed (id : SubscriptionId) (source : String) (callback : host.Callback)
  /-- A subscription was found and removed. -/
  | unsubscribed (id : SubscriptionId)
  | unloaded
  | started (callback : host.Callback)
  | ended (callback : host.Callback) (outcome : Outcome)

/-- A context and the events so far, oldest first. -/
structure World (host : Host) where
  context : Context host
  events : List (Event host)

namespace World

/-- The watcher of the context. -/
def watcher (world : World host) : Watcher host.Callback :=
  world.context.watcher

/-- A world in which nothing has been subscribed yet. -/
structure Fresh (world : World host) : Prop where
  watcher_eq : world.watcher = .empty
  events_eq : world.events = []

/-- Put another context in place. -/
def withContext (world : World host) (context : Context host) : World host :=
  { world with context }

/-- Add an event. -/
def record (world : World host) (event : Event host) : World host :=
  { world with events := world.events ++ [event] }

/-- Subscribe a text, and record the number given out. -/
def subscribe
    (world : World host)
    (source : String)
    (callback : host.Callback) : Except SyntaxError SubscriptionId × World host :=
  match world.context.subscribe source callback with
  | (.ok id, context) =>
    (.ok id, (world.withContext context).record (.subscribed id source callback))
  | (.error error, context) => (.error error, world.withContext context)

/-- Remove a subscription, and record it if there was one. -/
def unsubscribe (world : World host) (id : SubscriptionId) : Bool × World host :=
  match world.context.unsubscribe id with
  | (true, context) => (true, (world.withContext context).record (.unsubscribed id))
  | (false, context) => (false, world.withContext context)

/-- Unload the context, and record it. -/
def unload (world : World host) : World host :=
  (world.withContext world.context.unload).record .unloaded

end World

/-! ## Actions -/

/-- Why a run does not go on. -/
inductive Stop where
  | panic (message? : Option String)
  | halt
deriving DecidableEq, Repr

/-- An action on a world.  Where it is stopped, what it did before stays done. -/
abbrev Action (host : Host) : Type → Type :=
  EStateM Stop (World host)

instance : MonadStateOf (Context host) (Action host) where
  get := fun world => .ok world.context world
  set := fun context world => .ok () (world.withContext context)
  modifyGet := fun change world =>
    let (answer, context) := change world.context
    .ok answer (world.withContext context)

namespace Action

/-- The world in which an action ends, whether or not it is stopped. -/
def after {α : Type} (action : Action host α) (world : World host) : World host :=
  match action world with
  | .ok _ later => later
  | .error _ later => later

/-- The result of an action that is not stopped. -/
def result? {α : Type} (action : Action host α) (world : World host) : Option α :=
  match action world with
  | .ok result _ => some result
  | .error .. => none

/-- Change the world. -/
def update {α : Type} (change : World host → α × World host) : Action host α :=
  fun world => .ok (change world).1 (change world).2

/-- Add an event. -/
def record (event : Event host) : Action host Unit :=
  update fun world => ((), world.record event)

/-- How a callback ended.  A panic is caught, a halt is not. -/
def settle (action : Action host (Except String Unit)) : Action host Outcome := fun world =>
  match action world with
  | .ok (.ok ()) later => .ok .done later
  | .ok (.error message) later => .ok (.failed message) later
  | .error (.panic message?) later => .ok (.panicked message?) later
  | .error .halt later => .error .halt later

variable {α β : Type} {world later : World host}

theorem bind_of_ok {action : Action host α} {next : α → Action host β} {result : α}
    (ended : action world = .ok result later) : (action >>= next) world = next result later := by
  show EStateM.bind action next world = next result later
  rw [EStateM.bind, ended]

theorem bind_of_error {action : Action host α} {next : α → Action host β} {stop : Stop}
    (stopped : action world = .error stop later) :
    (action >>= next) world = .error stop later := by
  show EStateM.bind action next world = .error stop later
  rw [EStateM.bind, stopped]

/-- What ends was begun, and went on from there. -/
theorem bind_eq_ok {action : Action host α} {next : α → Action host β} {result : β}
    (ended : (action >>= next) world = .ok result later) :
    ∃ value middle, action world = .ok value middle ∧ next value middle = .ok result later := by
  cases begun : action world with
  | ok value middle =>
      rw [bind_of_ok begun] at ended
      exact ⟨value, middle, rfl, ended⟩
  | error stop middle =>
      rw [bind_of_error begun] at ended
      cases ended

theorem look_of (world : World host) :
    (getThe (Context host) : Action host (Context host)) world = .ok world.context world :=
  rfl

theorem after_of_ok {action : Action host α} {result : α}
    (ended : action world = .ok result later) : action.after world = later := by
  rw [after, ended]

theorem after_of_error {action : Action host α} {stop : Stop}
    (stopped : action world = .error stop later) : action.after world = later := by
  rw [after, stopped]

theorem eq_ok_of_result? {action : Action host α} {result : α}
    (ended : action.result? world = some result) :
    action world = .ok result (action.after world) := by
  cases ran : action world with
  | ok value later =>
      rw [result?, ran] at ended
      cases ended
      rw [after_of_ok ran]
  | error stop later =>
      rw [result?, ran] at ended
      cases ended

theorem after_bind_of_ok {action : Action host α} {next : α → Action host β} {result : α}
    (ended : action world = .ok result later) :
    (action >>= next).after world = (next result).after later := by
  rw [after, bind_of_ok ended, after]

theorem after_bind_pure (action : Action host α) (change : α → β) :
    (action >>= fun result => pure (change result)).after world = action.after world := by
  rcases ended : action world with ⟨result, later⟩ | ⟨stop, later⟩
  · rw [after_bind_of_ok ended, after_of_ok ended]
    rfl
  · rw [after_of_error ended, after_of_error (bind_of_error ended)]

theorem after_settle (action : Action host (Except String Unit)) (world : World host) :
    (settle action).after world = action.after world := by
  unfold after settle
  rcases action world with ⟨⟨⟩⟩ | ⟨⟨⟩⟩ <;> rfl

end Action

/-! ## Code -/

/-- What code can ask for. -/
inductive Request (host : Host) where
  | register (name : String) (arity : Nat) (code : host.Sensor)
  | registerBuiltins
  | parse (source : String)
  | compile (source : String)
  | evaluate (expression : Expression)
  | evaluateText (source : String)
  | subscribe (source : String) (callback : host.Callback)
  | unsubscribe (id : SubscriptionId)
  | touch (name : String)
  | fireEvent (event : String)
  | bindEvent (event : String) (names : List String)
  | addProbe (sensor : String) (code : host.Probe)
  | tick
  | unload
  | look
  | store (data : host.Data)

/-- The answers to a request. -/
def Request.Answer : Request host → Type
  | .register .. => Except RegistryError Unit
  | .registerBuiltins => Except RegistryError Unit
  | .parse _ => Except SyntaxError Parsed
  | .compile _ => Except ConditionError Parsed
  | .evaluate _ => Except EvalError Value
  | .evaluateText _ => Except ConditionError Value
  | .subscribe .. => Except SyntaxError SubscriptionId
  | .unsubscribe _ => Bool
  | .touch _ => TouchReport
  | .fireEvent _ => TouchReport
  | .bindEvent .. => Unit
  | .addProbe .. => Except ProbeError Unit
  | .tick => List String
  | .unload => Unit
  | .look => Context host
  | .store _ => Unit

/-- Code of a host program that ends in a result, if it is not stopped. -/
inductive Procedure (host : Host) (α : Type) where
  | done (result : α)
  | panic (message? : Option String)
  | ask (request : Request host) (next : request.Answer → Procedure host α)

/-- The code behind the sensors, callbacks and probes of a host. -/
structure Program (host : Host) where
  sensor : host.Sensor → List Value → Procedure host (Except SensorFailure Value)
  callback : host.Callback → Procedure host (Except String Unit)
  probe : host.Probe → Procedure host Value

/-! ## Runs -/

/-- How sensors, callbacks and probes are run. -/
structure Handlers (host : Host) where
  sensor : Context.SensorRunner host (Action host)
  callback : host.Callback → Action host Outcome
  probe : host.Probe → Action host Value

/-- Answer a request, with the code that it reaches run by `handlers`. -/
def perform (handlers : Handlers host) : (request : Request host) → Action host request.Answer
  | .register name arity code => modifyGetThe (Context host) (·.register name arity code)
  | .registerBuiltins => modifyGetThe (Context host) (·.registerBuiltins)
  | .parse source => modifyGetThe (Context host) (·.parse source)
  | .compile source => modifyGetThe (Context host) (·.compile source)
  | .evaluate expression => Context.evaluate handlers.sensor expression
  | .evaluateText source => Context.evaluateText handlers.sensor source
  | .subscribe source callback => Action.update (·.subscribe source callback)
  | .unsubscribe id => Action.update (·.unsubscribe id)
  | .touch name => Context.touch handlers.callback name
  | .fireEvent event => Context.fireEvent handlers.callback event
  | .bindEvent event names => modifyThe (Context host) (·.bindEvent event names)
  | .addProbe sensor code => modifyGetThe (Context host) (·.addProbe sensor code)
  | .tick => Context.tick handlers.probe handlers.callback
  | .unload => Action.update fun world => ((), world.unload)
  | .look => getThe (Context host)
  | .store data => modifyThe (Context host) ({ · with data })

/-- Run code, request by request. -/
def Procedure.run {α : Type} (handlers : Handlers host) : Procedure host α → Action host α
  | .done result => pure result
  | .panic message? => throw (.panic message?)
  | .ask request next => do
    let answer ← perform handlers request
    (next answer).run handlers

/-- The code behind a host, each piece of it run by `run`.  Callbacks are put on record. -/
def Program.handlersBy
    (program : Program host)
    (run : {α : Type} → Procedure host α → Action host α) : Handlers host where
  sensor := fun code arguments => run (program.sensor code arguments)
  callback := fun code => do
    Action.record (.started code)
    let outcome ← Action.settle (run (program.callback code))
    Action.record (.ended code outcome)
    pure outcome
  probe := fun code => run (program.probe code)

/-- The code of a program, run nested at most `depth` times. -/
def Program.handlers (program : Program host) : (depth : Nat) → Handlers host
  | 0 => program.handlersBy fun _ => throw .halt
  | depth + 1 => program.handlersBy fun procedure => procedure.run (program.handlers depth)

/-! ## A small program -/

/-- What a callback is sent for. -/
inductive Errand where
  | meddle
  | fail
  | rest
deriving DecidableEq, Repr

namespace Errand

/-- A host with errands for callbacks, and with no other code. -/
abbrev office : Host where
  Sensor := Empty
  Callback := Errand
  Probe := Empty
  Data := Unit

/--
Who meddles removes the first subscription, which may be its own, and the third one, subscribes
anew, and touches the function that all of them watch.
-/
def program : Program office where
  sensor := nofun
  callback
    | .meddle =>
      .ask (.unsubscribe 1) fun _ =>
      .ask (.unsubscribe 3) fun _ =>
      .ask (.subscribe "f()" Errand.fail) fun _ =>
      .ask (.touch "f") fun _ =>
      .done (.ok ())
    | .fail => .done (.error "failed")
    | .rest => .done (.ok ())
  probe := nofun

/-- Make three subscriptions. -/
def enlist : Procedure office Unit :=
  .ask (.subscribe "f()" Errand.meddle) fun _ =>
  .ask (.subscribe "f()" Errand.fail) fun _ =>
  .ask (.subscribe "f()" Errand.rest) fun _ =>
  .done ()

/-- A world without subscriptions. -/
def idle : World office where
  context := .new Context.defaultCapacity .empty .empty ()
  events := []

/-- A world with three subscriptions. -/
def waiting : World office :=
  (enlist.run (program.handlers 0)).after idle

/-- The world after the function was touched. -/
def meddled : World office :=
  ((Procedure.ask (.touch "f") .done).run (program.handlers 2)).after waiting

end Errand

end Vigil.Hosting
