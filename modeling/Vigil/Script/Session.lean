import Vigil.Script.Command
import Vigil.Settings

/-!
# Running scripts

A session is a context whose code is written in scripts. Running a command gives its result and
the trace of the code that it ran.

Scripts can call each other without end, so code is run to a given depth of nesting only; a
command that would go deeper has no result. Apart from this, running is total: a panic ends the
code around it up to the next callback, where it is caught, and all that was done before it
stays done.
-/

namespace Vigil.Script

/-! ## State -/

/-- Whose answers are counted. -/
inductive Caller where
  | sensor (name : String)
  | probe (name : String)
deriving DecidableEq, Repr

/-- What a session keeps beside its context. -/
structure Data where
  stored : Table String Value
  labels : Table String SubscriptionId
  slots : Table String Expression
  /-- How often each sensor and probe has answered. -/
  answered : Table Caller Nat
  /-- The trees that commands have returned, by first return. -/
  trees : List Nat
  /-- How many callbacks the current command has run. -/
  fired : Nat
  trace : Array Event

/-- Nothing is kept as a session starts. -/
def Data.empty : Data where
  stored := .empty
  labels := .empty
  slots := .empty
  answered := .empty
  trees := []
  fired := 0
  trace := #[]

/-- The host program whose code is written in scripts. -/
def host : Host where
  Sensor := Sensor
  Callback := Callback
  Probe := Probe
  Data := Data

/-- The state of a session. -/
abbrev Session : Type := Context host

/-- An action of a session: it may have no result, and a panic may end it. -/
abbrev Action : Type → Type := ExceptT (Option String) (StateT Session Option)

/-- How the code of scripts is run. -/
structure Handlers where
  sensor : Context.SensorRunner host Action
  callback : host.Callback → Action Outcome
  probe : host.Probe → Action Value

namespace Action

/-- The answer of code that is nested too deeply to be run. -/
def exhausted {α : Type} : Action α :=
  ExceptT.mk fun _ => none

/-- Change the data of the session. -/
def modifyData (change : Data → Data) : Action Unit :=
  modify fun session => { session with data := change session.data }

/-- Add an event to the trace. -/
def trace (event : Event) : Action Unit :=
  modifyData fun data => { data with trace := data.trace.push event }

end Action

/-! ## Commands -/

/-- The number under which a tree is returned, which is a new one at its first return. -/
def treeNumber (serial : Nat) : Action Nat := do
  let trees := (← get).data.trees
  match trees.idxOf? serial with
  | some number => pure number
  | none =>
    Action.modifyData fun data => { data with trees := trees ++ [serial] }
    pure trees.length

/-- Keep an expression in a slot, and answer what is known of it. -/
def keepParsed (slot : String) : Except ConditionError Parsed → Action Result
  | .error error => pure (.fault (.condition error))
  | .ok parsed => do
    let number ← treeNumber parsed.number
    Action.modifyData fun data => { data with slots := data.slots.put slot parsed.expression }
    pure (.parsed number parsed.expression.functionNames)

/-- The result of an evaluation. -/
def ofEvaluation : Except ConditionError Value → Result
  | .ok value => .value value
  | .error error => .fault (.condition error)

/-- Run one command, with the code that it reaches run by `handlers`. -/
def perform (handlers : Handlers) : Command → Action Result
  | .register name arity steps answer => do
    match ← modifyGet (Context.register · name arity (⟨name, steps, answer⟩ : Sensor)) with
    | .ok () => pure .done
    | .error error => pure (.fault (.registry error))
  | .registerBuiltins => do
    match ← modifyGet (Context.registerBuiltins ·) with
    | .ok () => pure .done
    | .error error => pure (.fault (.registry error))
  | .functionNames => do
    pure (.names (← get).registry.names)
  | .evaluate source => do
    pure (ofEvaluation (← Context.evaluateText handlers.sensor source))
  | .isTrue source => do
    let outcome ← Context.isTrue handlers.sensor source
    pure (ofEvaluation (outcome.map Value.boolean))
  | .parse source slot => do
    let outcome ← modifyGet (Context.parse · source)
    keepParsed slot (outcome.mapError ConditionError.invalid)
  | .compile source slot => do
    keepParsed slot (← modifyGet (Context.compile · source))
  | .runSlot slot => do
    match (← get).data.slots.get? slot with
    | none => pure (.fault .emptySlot)
    | some expression =>
      let outcome ← Context.evaluate handlers.sensor expression
      pure (ofEvaluation (outcome.mapError ConditionError.evaluation))
  | .subscribe label source steps => do
    match ← modifyGet (Context.subscribe · source (⟨label, steps⟩ : Callback)) with
    | .error error => pure (.fault (.condition (.invalid error)))
    | .ok id =>
      Action.modifyData fun data => { data with labels := data.labels.put label id }
      pure (.subscribed id)
  | .unsubscribe label => do
    match (← get).data.labels.get? label with
    | none => pure (.fault .unknownLabel)
    | some id => pure (.removed (← modifyGet (Context.unsubscribe · id)))
  | .watchedNames label => do
    let session ← get
    match session.data.labels.get? label with
    | none => pure (.fault .unknownLabel)
    | some id => pure (.watched (session.watcher.watchedNames? id))
  | .touch name => do
    pure (.touched (← Context.touch handlers.callback name))
  | .fireEvent event => do
    pure (.touched (← Context.fireEvent handlers.callback event))
  | .bindEvent event names => do
    modify (Context.bindEvent · event names)
    pure .done
  | .addProbe sensor steps answer => do
    match ← modifyGet (Context.addProbe · sensor (⟨sensor, steps, answer⟩ : Probe)) with
    | .ok () => pure .done
    | .error error => pure (.fault (.probe error))
  | .set name value => do
    Action.modifyData fun data => { data with stored := data.stored.put name value }
    pure .done
  | .tick => do
    pure (.changed (← Context.tick handlers.probe handlers.callback))
  | .unload => do
    modify Context.unload
    pure .done
  | .strategyOf sensor => do
    pure (.strategy ((← get).strategyOf sensor))
  | .counts name => do
    let watcher := (← get).watcher
    pure (.counts watcher.subscriptionCount (watcher.subscriberCount name) watcher.unloaded)
  | .inspect => do
    pure (.text (← get).inspect)

/-! ## Code -/

/-- Run the steps of the code `within`, up to one that ends them. -/
def runSteps (handlers : Handlers) (within : String) :
    List Step → Action (Except String Unit)
  | [] => pure (.ok ())
  | .fail message :: _ => pure (.error message)
  | .panic message? :: _ => throw message?
  | .command command decisive :: rest => do
    let result ← perform handlers command
    Action.trace (.nested within result)
    match result, decisive with
    | .fault fault, true => pure (.error fault.message)
    | _, _ => runSteps handlers within rest

/-- Find the answer of a sensor or a probe. -/
def runAnswer
    (handlers : Handlers)
    (caller : Caller)
    (arguments : List Value) : Answer → Action (Except String Value)
  | .evaluate source => do
    match ← Context.evaluateText handlers.sensor source with
    | .ok value => pure (.ok value)
    | .error error => pure (.error error.message)
  | .fail message => pure (.error message)
  | .argument index => pure (.ok (arguments[index]?.getD .absent))
  | .stored name => do
    pure (.ok (((← get).data.stored.get? name).getD .absent))
  | .sequence values => do
    let count := ((← get).data.answered.get? caller).getD 0
    Action.modifyData fun data =>
      { data with answered := data.answered.put caller (count + 1) }
    pure (.ok ((values[count]?.or values.getLast?).getD .absent))
  | .constant value => pure (.ok value)

/-- Run a sensor or a probe: its steps, and then its answer unless a step ended it. -/
def runCode
    (handlers : Handlers)
    (caller : Caller)
    (name : String)
    (steps : List Step)
    (arguments : List Value)
    (answer : Answer) : Action (Except String Value) := do
  match ← runSteps handlers name steps with
  | .error message => pure (.error message)
  | .ok () => runAnswer handlers caller arguments answer

/-- How many callbacks of one command run their steps. -/
def callbackLimit : Nat := 40

/-- Run a callback. The callbacks of a command beyond `callbackLimit` do nothing. -/
def runCallback (handlers : Handlers) (callback : Callback) : Action Outcome := do
  Action.trace (.fired callback.label)
  Action.modifyData fun data => { data with fired := data.fired + 1 }
  if callbackLimit < (← get).data.fired then
    pure .done
  else
    tryCatch
      (do
        match ← runSteps handlers callback.label callback.steps with
        | .ok () => pure .done
        | .error message => pure (.failed message))
      fun message? => pure (.panicked message?)

/-- How the code of scripts is run, nested at most `depth` times. -/
def handlers : (depth : Nat) → Handlers
  | 0 =>
    { sensor := fun _ _ => Action.exhausted
      callback := fun _ => Action.exhausted
      probe := fun _ => Action.exhausted }
  | depth + 1 =>
    { sensor := fun (sensor : Sensor) arguments => do
        Action.trace (.called sensor.name arguments)
        let answer ← runCode (handlers depth) (.sensor sensor.name) sensor.name sensor.steps
          arguments sensor.answer
        pure (answer.mapError SensorFailure.reported)
      callback := runCallback (handlers depth)
      probe := fun (probe : Probe) => do
        Action.trace (.sampled probe.name)
        let answer ← runCode (handlers depth) (.probe probe.name) probe.name probe.steps []
          probe.answer
        pure (answer.toOption.getD .absent) }

/-! ## Sessions -/

/-- The deepest nesting of code that is run where nothing else is asked for. -/
def defaultDepth : Nat := 512

/-- A session with the default settings of a bare context, or as settings ask for it. -/
def Session.start (settings? : Option Settings) : Except RegistryError Session :=
  match settings? with
  | none => .ok (.new Context.defaultCapacity .empty .empty Data.empty)
  | some settings => Context.ofSettings settings Data.empty

/-- How a command went: what it answered, or the text of a panic that nobody caught. -/
structure Transcript where
  result : Except (Option String) Result
  trace : List Event
  journal : List Log.Entry

/-- Run an action of a session; the trace and the journal start anew. -/
def Session.transcribe (session : Session) (action : Action Result) :
    Option (Transcript × Session) := do
  let fresh : Session :=
    { session with
      journal := #[]
      data := { session.data with fired := 0, trace := #[] } }
  let (result, session) ← action.run fresh
  return (⟨result, session.data.trace.toList, session.journal.toList⟩, session)

/-- Run a command of a session, unless its code is nested too deeply. -/
def Session.run (session : Session) (command : Command) : Option (Transcript × Session) :=
  session.transcribe (perform (handlers defaultDepth) command)

/-- Run commands one after the other, up to one whose code is nested too deeply. -/
def Session.runAll (session : Session) : List Command → List Transcript × Session
  | [] => ([], session)
  | command :: rest =>
    match session.run command with
    | none => ([], session)
    | some (transcript, session) =>
      let (transcripts, session) := session.runAll rest
      (transcript :: transcripts, session)

end Vigil.Script
