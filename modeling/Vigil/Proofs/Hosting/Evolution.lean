import Mathlib.Logic.Relation
import Vigil.Proofs.Context.Parsing
import Vigil.Proofs.Expr.Correspondence
import Vigil.Proofs.Hosting.Program

/-!
# The evolution of worlds

Whatever a host program does, a world changes by single operations only: a registration, a text
that is parsed, a subscription made or removed, an unloading, an entry in the journal, and so on.
`World.Step` lists them, and `World.Evolves` is any number of them.

The main statement is `Procedure.run_evolving`: every run of code, nested as deep as it may be and
stopped or not, leads to a world that the first one evolves to.  What every step keeps is so kept
by every run, and it holds at every moment of it, also inside a callback.  The worlds that can come
about at all are the reachable ones: those that evolve from a world without subscriptions.
-/

namespace Vigil.Hosting

variable {host : Host}

/-- One operation on a world. -/
inductive World.Step : World host → World host → Prop where
  | register (world : World host) (name : String) (arity : Nat) (code : host.Sensor) :
      Step world (world.withContext (world.context.register name arity code).2)
  | registerBuiltins (world : World host) :
      Step world (world.withContext world.context.registerBuiltins.2)
  | parse (world : World host) (source : String) :
      Step world (world.withContext (world.context.parse source).2)
  | subscribe (world : World host) (source : String) (callback : host.Callback) :
      Step world (world.subscribe source callback).2
  | unsubscribe (world : World host) (id : SubscriptionId) :
      Step world (world.unsubscribe id).2
  | unload (world : World host) :
      Step world world.unload
  | bindEvent (world : World host) (event : String) (names : List String) :
      Step world (world.withContext (world.context.bindEvent event names))
  | addProbe (world : World host) (sensor : String) (code : host.Probe) :
      Step world (world.withContext (world.context.addProbe sensor code).2)
  | observe (world : World host) (samples : List (String × Value)) :
      Step world (world.withContext (world.context.observeAll samples).2)
  | report
      (world : World host) (level : Log.Level) (message : String)
      (fields : List (String × String)) :
      Step world (world.withContext (world.context.log level message fields))
  | store (world : World host) (data : host.Data) :
      Step world (world.withContext { world.context with data })
  | started (world : World host) (callback : host.Callback) :
      Step world (world.record (.started callback))
  | ended (world : World host) (callback : host.Callback) (outcome : Outcome) :
      Step world (world.record (.ended callback outcome))

/-- Any number of operations, one after the other. -/
def World.Evolves : World host → World host → Prop :=
  Relation.ReflTransGen World.Step

theorem World.Evolves.refl (world : World host) : world.Evolves world :=
  Relation.ReflTransGen.refl

theorem World.Evolves.trans {first second third : World host}
    (before : first.Evolves second) (after : second.Evolves third) : first.Evolves third :=
  Relation.ReflTransGen.trans before after

/-- A world that operations lead to from a fresh one, in whatever order and by whatever code. -/
def World.Reachable (world : World host) : Prop :=
  ∃ start : World host, start.Fresh ∧ start.Evolves world

theorem World.Fresh.reachable {world : World host} (fresh : world.Fresh) : world.Reachable :=
  ⟨world, fresh, .refl world⟩

theorem World.Reachable.evolves {before after : World host}
    (reachable : before.Reachable) (evolves : before.Evolves after) : after.Reachable := by
  rcases reachable with ⟨start, fresh, begun⟩
  exact ⟨start, fresh, begun.trans evolves⟩

theorem World.Step.evolves {before after : World host} (step : before.Step after) :
    before.Evolves after :=
  Relation.ReflTransGen.single step

/-! ## Links between worlds -/

/-- The callback that an event starts. -/
def Event.started? : Event host → Option host.Callback
  | started callback => some callback
  | _ => none

/-- The callbacks that have been started, in order. -/
def World.starts (world : World host) : List host.Callback :=
  world.events.filterMap Event.started?

/--
A relation that holds along operations.  Of an operation that starts a callback this is asked only
where nothing has been unloaded.
-/
structure World.Linking (link : World host → World host → Prop) : Prop where
  refl : ∀ world, link world world
  trans : ∀ {first second third}, link first second → link second third → link first third
  step : ∀ {before after : World host},
    before.Step after →
      (before.watcher.unloaded = true → after.starts = before.starts) → link before after

theorem World.linking_evolves : World.Linking (World.Evolves : World host → World host → Prop) where
  refl := .refl
  trans := .trans
  step := fun step _ => step.evolves

namespace Action

/-- The worlds before and after an action are linked. -/
def Linked (link : World host → World host → Prop) {α : Type} (action : Action host α) : Prop :=
  ∀ world : World host, link world (action.after world)

namespace Linked

variable {α β : Type} {link : World host → World host → Prop} (linking : World.Linking link)
include linking

theorem pure (result : α) : Linked link (Pure.pure result : Action host α) :=
  fun world => linking.refl world

theorem throw (stop : Stop) : Linked link (throwThe Stop stop : Action host α) :=
  fun world => linking.refl world

/-- What is done first is not undone by what follows. -/
theorem after_bind {next : α → Action host β} (second : ∀ result, Linked link (next result))
    (action : Action host α) (world : World host) :
    link (action.after world) ((action >>= next).after world) := by
  cases ended : action world with
  | ok result later =>
      rw [after_of_ok ended, after_bind_of_ok ended]
      exact second result later
  | error stop later =>
      rw [after_of_error ended, after_of_error (bind_of_error ended)]
      exact linking.refl later

theorem bind {action : Action host α} {next : α → Action host β}
    (first : Linked link action) (second : ∀ result, Linked link (next result)) :
    Linked link (action >>= next) := by
  intro world
  exact linking.trans (first world) (after_bind linking second action world)

theorem look : Linked link (getThe (Context host) : Action host (Context host)) :=
  fun world => linking.refl world

theorem modify {change : Context host → α × Context host}
    (step : ∀ world : World host, world.Step (world.withContext (change world.context).2)) :
    Linked link (modifyGetThe (Context host) change : Action host α) :=
  fun world => linking.step (step world) fun _ => rfl

theorem alter {change : Context host → Context host}
    (step : ∀ world : World host, world.Step (world.withContext (change world.context))) :
    Linked link (modifyThe (Context host) change : Action host Unit) :=
  fun world => linking.step (step world) fun _ => rfl

theorem report (level : Log.Level) (message : String) (fields : List (String × String)) :
    Linked link (Context.report host level message fields : Action host Unit) :=
  alter linking fun world => .report world level message fields

omit linking in
theorem settle {action : Action host (Except String Unit)} (linked : Linked link action) :
    Linked link (Action.settle action) := by
  intro world
  rw [after_settle]
  exact linked world

/-- Linking worlds is a relation of an action to whatever there is on the other side. -/
def correspondence : Correspondence (Action host) (Action host) where
  Holds := fun action _ => Linked link action
  holds_pure := pure linking
  holds_bind := bind linking
  holds_map := fun _ _ _ linked => bind linking linked fun _ => pure linking _

/-! Actions that may also end in an error of their own. -/

theorem bindExcept {ε : Type}
    {action : ExceptT ε (Action host) α} {next : α → ExceptT ε (Action host) β}
    (first : Linked link action.run) (second : ∀ result, Linked link (next result).run) :
    Linked link (action >>= next).run := by
  refine bind linking first fun outcome => ?_
  cases outcome with
  | ok result => exact second result
  | error error => exact pure linking (Except.error error)

theorem lift {ε : Type} {action : Action host α} (linked : Linked link action) :
    Linked link (liftM action : ExceptT ε (Action host) α).run :=
  bind linking linked fun result => pure linking (Except.ok result)

end Linked

end Action

open Vigil.Hosting.Action

/-! ## Evaluation -/

section Evaluation

variable {link : World host → World host → Prop} (linking : World.Linking link)
variable {Code : Type} {environment : Environment (Action host) Code}
include linking

theorem answer_linked
    (call : ∀ code arguments, Linked link (environment.call code arguments))
    (definition : Definition Code)
    (arguments : List Value) : Linked link (environment.answer definition arguments) :=
  @Correspondence.answer _ _ _ _ (Linked.correspondence linking) _ environment environment
    call definition arguments

/-- Evaluating links worlds if looking functions up and calling them does. -/
theorem evaluate_linked
    (lookup : ∀ name, Linked link (environment.lookup? name))
    (call : ∀ code arguments, Linked link (environment.call code arguments))
    (tree : Tree) : Linked link (tree.evaluate environment).run :=
  @Correspondence.evaluate _ _ _ _ (Linked.correspondence linking) _ environment environment
    lookup call tree

end Evaluation

/-! ## Requests -/

/-- Handlers that link worlds.  Callbacks are not run after the unloading. -/
structure Handlers.Linked (link : World host → World host → Prop) (handlers : Handlers host) :
    Prop where
  sensor : ∀ code arguments, Action.Linked link (handlers.sensor code arguments)
  callback : ∀ code world,
    world.watcher.unloaded = false → link world ((handlers.callback code).after world)
  probe : ∀ code, Action.Linked link (handlers.probe code)

section Requests

variable {link : World host → World host → Prop} (linking : World.Linking link)
variable {handlers : Handlers host} (linked : handlers.Linked link)
include linking linked

theorem evaluateExpression_linked (expression : Expression) :
    Action.Linked link (Context.evaluate handlers.sensor expression) := by
  refine evaluate_linked linking (fun name => ?_) linked.sensor expression.tree
  exact .bind linking (.look linking) fun context => .pure linking _

/-- A text is read before anything else is done with it. -/
theorem evaluateText_after_parse (source : String) (world : World host) :
    link (world.withContext (world.context.parse source).2)
      ((Context.evaluateText handlers.sensor source).after world) := by
  refine Linked.after_bind linking (fun outcome => ?_)
    (modifyGetThe (Context host) (·.parse source)) world
  cases outcome with
  | error error => exact .pure linking _
  | ok parsed =>
      refine .bind linking (evaluateExpression_linked linking linked parsed.expression) ?_
      intro answer
      cases answer <;> exact .pure linking _

theorem evaluateText_linked (source : String) :
    Action.Linked link (Context.evaluateText handlers.sensor source) := by
  intro world
  refine linking.trans ?_ (evaluateText_after_parse linking linked source world)
  exact linking.step (.parse world source) fun _ => rfl

/-- Only what is live is notified, and then nothing has been unloaded. -/
theorem notify_linked (name : String) (subscription : Subscription host.Callback) :
    Action.Linked link (Context.notify handlers.callback name subscription) := by
  intro world
  rw [Context.notify, after_bind_of_ok (look_of world)]
  split
  · next live =>
    have loaded : world.watcher.unloaded = false := by
      simp only [Watcher.isLive, Bool.and_eq_true, Bool.not_eq_true'] at live
      exact live.1
    refine linking.trans (linked.callback subscription.callback world loaded) ?_
    refine Linked.after_bind linking (fun outcome => ?_) _ world
    cases outcome with
    | done => exact .pure linking _
    | failed message =>
        exact .bind linking (.report linking _ _ _) fun _ => .pure linking _
    | panicked message? =>
        exact .bind linking (.report linking _ _ _) fun _ => .pure linking _
  · exact linking.refl world

theorem notifyAll_linked (name : String) (subscriptions : List (Subscription host.Callback)) :
    Action.Linked link (Context.notifyAll handlers.callback name subscriptions) := by
  induction subscriptions with
  | nil => exact .pure linking _
  | cons subscription rest induction =>
      refine .bind linking (notify_linked linking linked name subscription) fun first => ?_
      exact .bind linking induction fun others => .pure linking _

theorem touch_linked (name : String) :
    Action.Linked link (Context.touch handlers.callback name) := by
  refine .bind linking (.look linking) fun context => ?_
  dsimp only
  split
  · exact .pure linking _
  · refine .bind linking (.report linking _ _ _) fun _ => ?_
    exact notifyAll_linked linking linked name _

theorem touchAll_linked (names : List String) :
    Action.Linked link (Context.touchAll handlers.callback names) := by
  induction names with
  | nil => exact .pure linking _
  | cons name rest induction =>
      refine .bind linking (touch_linked linking linked name) fun first => ?_
      exact .bind linking induction fun others => .pure linking _

theorem fireEvent_linked (event : String) :
    Action.Linked link (Context.fireEvent handlers.callback event) := by
  refine .bind linking (.look linking) fun context => ?_
  split
  · exact .bind linking (.report linking _ _ _) fun _ => .pure linking _
  · refine .bind linking (.report linking _ _ _) fun _ => ?_
    exact touchAll_linked linking linked _

theorem sampleAll_linked (probes : List (Probe host.Probe)) :
    Action.Linked link (Context.sampleAll handlers.probe probes) := by
  induction probes with
  | nil => exact .pure linking _
  | cons probe rest induction =>
      refine .bind linking (linked.probe probe.code) fun sample => ?_
      exact .bind linking induction fun samples => .pure linking _

theorem tick_linked : Action.Linked link (Context.tick handlers.probe handlers.callback) := by
  refine .bind linking (.look linking) fun context => ?_
  refine .bind linking (sampleAll_linked linking linked _) fun samples => ?_
  refine .bind linking (.modify linking fun world => .observe world samples) fun changed => ?_
  exact .bind linking (touchAll_linked linking linked changed) fun _ => .pure linking _

omit linked in
theorem subscribe_linked (world : World host) (source : String) (callback : host.Callback) :
    link world (world.subscribe source callback).2 := by
  refine linking.step (.subscribe world source callback) fun _ => ?_
  rw [World.subscribe]
  split
  · exact List.filterMap_append.trans (List.append_nil _)
  · rfl

omit linked in
theorem unsubscribe_linked (world : World host) (id : SubscriptionId) :
    link world (world.unsubscribe id).2 := by
  refine linking.step (.unsubscribe world id) fun _ => ?_
  rw [World.unsubscribe]
  split
  · exact List.filterMap_append.trans (List.append_nil _)
  · rfl

omit linked in
theorem unload_linked (world : World host) : link world world.unload :=
  linking.step (.unload world) fun _ => List.filterMap_append.trans (List.append_nil _)

theorem perform_linked (request : Request host) :
    Action.Linked link (perform handlers request) := by
  cases request with
  | register name arity code =>
      exact .modify linking fun world => .register world name arity code
  | registerBuiltins => exact .modify linking fun world => .registerBuiltins world
  | parse source => exact .modify linking fun world => .parse world source
  | compile source =>
      refine .modify linking fun world => ?_
      rw [Context.compile_context]
      exact .parse world source
  | evaluate expression => exact evaluateExpression_linked linking linked expression
  | evaluateText source => exact evaluateText_linked linking linked source
  | subscribe source callback => exact fun world => subscribe_linked linking world source callback
  | unsubscribe id => exact fun world => unsubscribe_linked linking world id
  | touch name => exact touch_linked linking linked name
  | fireEvent event => exact fireEvent_linked linking linked event
  | bindEvent event names => exact .alter linking fun world => .bindEvent world event names
  | addProbe sensor code => exact .modify linking fun world => .addProbe world sensor code
  | tick => exact tick_linked linking linked
  | unload => exact fun world => unload_linked linking world
  | look => exact .look linking
  | store data => exact .alter linking fun world => .store world data

end Requests

/-! ## Code -/

section Code

variable {link : World host → World host → Prop} (linking : World.Linking link)
include linking

theorem Procedure.run_linked {handlers : Handlers host} (linked : handlers.Linked link)
    {α : Type} (procedure : Procedure host α) : Action.Linked link (procedure.run handlers) := by
  induction procedure with
  | done result => exact .pure linking result
  | panic message? => exact .throw linking (.panic message?)
  | ask request next induction =>
      refine .bind linking (perform_linked linking linked request) ?_
      intro answer
      exact induction answer

section HandlersBy

variable (program : Program host) {run : {α : Type} → Procedure host α → Action host α}
variable (linked : ∀ {α : Type} (procedure : Procedure host α), Action.Linked link (run procedure))
include linked

/-- The first that happens in a callback is that its start is put on record. -/
theorem Program.handlersBy_started (callback : host.Callback) (world : World host) :
    link (world.record (.started callback))
      (((program.handlersBy run).callback callback).after world) := by
  refine Linked.after_bind linking (fun _ => ?_) (Action.record (.started callback)) world
  refine .bind linking (linked (program.callback callback)).settle fun outcome => ?_
  refine .bind linking (fun world => ?_) fun _ => .pure linking _
  refine linking.step (.ended world callback outcome) fun _ => ?_
  exact List.filterMap_append.trans (List.append_nil _)

theorem Program.handlersBy_linked : (program.handlersBy run).Linked link where
  sensor := fun code arguments => linked (program.sensor code arguments)
  callback := by
    intro code world loaded
    refine linking.trans ?_ (program.handlersBy_started linking linked code world)
    refine linking.step (.started world code) fun unloaded => ?_
    rw [loaded] at unloaded
    cases unloaded
  probe := fun code => linked (program.probe code)

end HandlersBy

/-- However deep the code of a program is nested, running it links worlds. -/
theorem Program.handlers_linked (program : Program host) (depth : Nat) :
    (program.handlers depth).Linked link := by
  induction depth with
  | zero => exact program.handlersBy_linked linking fun _ => .throw linking .halt
  | succ depth induction =>
      have run {α : Type} (procedure : Procedure host α) :=
        procedure.run_linked linking induction
      exact program.handlersBy_linked linking run

theorem Program.handlers_started
    (program : Program host) (depth : Nat) (callback : host.Callback) (world : World host) :
    link (world.record (.started callback))
      (((program.handlers depth).callback callback).after world) := by
  cases depth with
  | zero => exact program.handlersBy_started linking (fun _ => .throw linking .halt) callback world
  | succ depth =>
      have nested := program.handlers_linked linking depth
      exact program.handlersBy_started linking
        (fun procedure => procedure.run_linked linking nested) callback world

end Code

/-! ## Actions that let worlds evolve -/

/-- The worlds before and after an action are linked by operations. -/
def Action.Evolving {α : Type} (action : Action host α) : Prop :=
  ∀ world : World host, world.Evolves (action.after world)

/-- Handlers that let worlds evolve. -/
structure Handlers.Evolving (handlers : Handlers host) : Prop where
  sensor : ∀ code arguments, (handlers.sensor code arguments).Evolving
  callback : ∀ code, (handlers.callback code).Evolving
  probe : ∀ code, (handlers.probe code).Evolving

theorem Handlers.Evolving.linked {handlers : Handlers host} (evolving : handlers.Evolving) :
    handlers.Linked World.Evolves where
  sensor := evolving.sensor
  callback := fun code world _ => evolving.callback code world
  probe := evolving.probe

/-- The code of a program lets worlds evolve, also where a callback is run after the unloading. -/
theorem Program.handlers_evolving (program : Program host) (depth : Nat) :
    (program.handlers depth).Evolving where
  sensor := (program.handlers_linked World.linking_evolves depth).sensor
  callback := by
    intro code world
    refine (World.Step.started world code).evolves.trans ?_
    exact program.handlers_started World.linking_evolves depth code world
  probe := (program.handlers_linked World.linking_evolves depth).probe

theorem Procedure.run_evolving
    {handlers : Handlers host} (evolving : handlers.Evolving)
    {α : Type} (procedure : Procedure host α) : (procedure.run handlers).Evolving :=
  procedure.run_linked World.linking_evolves evolving.linked

/-- Reachable worlds stay reachable under every program, also where its run is cut short. -/
theorem World.Reachable.run {world : World host} (reachable : world.Reachable)
    (program : Program host) (depth : Nat) {α : Type} (procedure : Procedure host α) :
    ((procedure.run (program.handlers depth)).after world).Reachable :=
  reachable.evolves (procedure.run_evolving (program.handlers_evolving depth) world)

theorem Errand.waiting_reachable : Errand.waiting.Reachable := by
  have fresh : Errand.idle.Fresh := ⟨rfl, rfl⟩
  exact fresh.reachable.run Errand.program 0 _

end Vigil.Hosting
