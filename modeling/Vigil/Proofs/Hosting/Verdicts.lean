import Mathlib.Data.List.Forall2
import Vigil.Proofs.Context.Journal
import Vigil.Proofs.Context.Relation
import Vigil.Proofs.Watch.Pass

/-!
# Verdicts of callbacks

A callback ends well or returns an error.  What it returns is counted in the report of the touch and
written to the journal, and nothing else is made of it.  So take two programs that do the same work
and differ in what their callbacks return.  They may even look at the context, but then they have to
take no notice of the failures in the journal.  Each request is answered alike in both, but for the
number of failures; this holds for sensors, callbacks and probes at every depth of nesting.

What is left of a world without its failures is the same in both runs.  Every operation does the
same to a world with failures and to what is left of it, so the invariant needs no further care.
-/

namespace Vigil

/-! ## Forgetting failures -/

/-- An error of a callback counts as a good end. -/
def Outcome.withoutFailure : Outcome → Outcome
  | .failed _ => .done
  | outcome => outcome

/-- A report that counts no failures. -/
def TouchReport.withoutFailures (report : TouchReport) : TouchReport :=
  { report with failed := 0 }

/-- Reports that differ in the number of failures at most. -/
def TouchReport.Akin (report report' : TouchReport) : Prop :=
  report.withoutFailures = report'.withoutFailures

theorem TouchReport.Akin.add {first first' others others' : TouchReport}
    (akin : first.Akin first') (later : others.Akin others') :
    (first + others).Akin (first' + others') := by
  unfold TouchReport.Akin at akin later ⊢
  show first.withoutFailures + others.withoutFailures = (first' + others').withoutFailures
  rw [akin, later]
  rfl

namespace Hosting

variable {host : Host}

/-! ## Worlds that differ in failures -/

/-- What is recorded does not tell whether a callback returned an error. -/
def Event.withoutFailure : Event host → Event host
  | .ended callback outcome => .ended callback outcome.withoutFailure
  | event => event

/-- What is left of a world without its failures. -/
def World.withoutFailures (world : World host) : World host where
  context := world.context.withoutFailures
  events := world.events.map Event.withoutFailure

/-- Worlds that differ in failures at most. -/
def World.Akin (world world' : World host) : Prop :=
  world.withoutFailures = world'.withoutFailures

namespace World

variable {world world' : World host}

theorem withoutFailures_context (world : World host) :
    world.withoutFailures.context = world.context.withoutFailures :=
  rfl

theorem withoutFailures_record (world : World host) (event : Event host) :
    (world.record event).withoutFailures = world.withoutFailures.record event.withoutFailure := by
  simp only [withoutFailures, record, List.map_append, List.map_singleton]

/-- It makes no difference if a failure is written to the journal. -/
theorem logFailure_akin (world : World host) (level : Log.Level)
    (fields : List (String × String)) :
    (world.withContext
      (world.context.log level "condition callback failed" fields)).Akin world := by
  have forgotten := Context.withoutFailures_log_failure world.context level fields
  exact congrArg world.withoutFailures.withContext forgotten

/-- A change of the world comes to the same without failures. -/
def Impartial {α : Type} (change : World host → α × World host) : Prop :=
  ∀ world, change world.withoutFailures = ((change world).1, (change world).2.withoutFailures)

theorem Impartial.of_appends {α : Type} {change : Context host → α × Context host}
    (appends : Context.Appends change) :
    Impartial fun world : World host =>
      ((change world.context).1, world.withContext (change world.context).2) := by
  intro world
  have changed := appends.without world.context
  exact congrArg (fun ended => (ended.1, world.withoutFailures.withContext ended.2)) changed

theorem Impartial.subscribe (source : String) (callback : host.Callback) :
    Impartial (·.subscribe source callback) := by
  intro world
  have subscribed := (Context.Appends.subscribe source callback).without world.context
  simp only [World.subscribe]
  rw [withoutFailures_context, subscribed]
  rcases world.context.subscribe source callback with ⟨error | id, context⟩
  · rfl
  · simp only [withoutFailures_record]
    rfl

theorem Impartial.unsubscribe (id : SubscriptionId) :
    Impartial fun world : World host => world.unsubscribe id := by
  intro world
  have unsubscribed := (Context.Appends.unsubscribe id).without world.context
  simp only [World.unsubscribe]
  rw [withoutFailures_context, unsubscribed]
  rcases world.context.unsubscribe id with ⟨removed, context⟩
  cases removed with
  | false => rfl
  | true =>
      simp only [withoutFailures_record]
      rfl

theorem Impartial.started (callback : host.Callback) :
    Impartial fun world : World host => ((), world.record (.started callback)) :=
  fun world => congrArg (Prod.mk ()) (world.withoutFailures_record (.started callback)).symm

theorem Impartial.unload : Impartial fun world : World host => ((), world.unload) := by
  intro world
  have unloaded := Context.Appends.unload.without world.context
  refine Prod.ext rfl ?_
  simp only [World.unload, withoutFailures_record]
  exact congrArg
    (fun ended => (world.withoutFailures.withContext ended.2).record .unloaded) unloaded

theorem Impartial.akin {α : Type} {change : World host → α × World host}
    (impartial : Impartial change) (akin : world.Akin world') :
    (change world).1 = (change world').1 ∧ (change world).2.Akin (change world').2 := by
  have same := (impartial world).symm.trans ((congrArg change akin).trans (impartial world'))
  exact Prod.mk.inj same

namespace Akin

variable (akin : world.Akin world')
include akin

theorem context : world.context.Akin world'.context :=
  congrArg World.context akin

theorem watcher_eq : world'.watcher = world.watcher :=
  akin.context.watcher_eq

theorem log (level : Log.Level) (message : String) (fields : List (String × String)) :
    (world.withContext (world.context.log level message fields)).Akin
      (world'.withContext (world'.context.log level message fields)) := by
  by_cases failure : message = "condition callback failed"
  · subst failure
    exact (world.logFailure_akin level fields).trans
      (akin.trans (world'.logFailure_akin level fields).symm)
  · exact ((Impartial.of_appends (.log failure level fields)).akin akin).2

/-- What is made of the end of a callback is the same but for failures. -/
theorem withFailure {outcome outcome' : Outcome}
    (same : outcome.withoutFailure = outcome'.withoutFailure)
    (name : String) (id : SubscriptionId) :
    (world.withFailure name id outcome).Akin (world'.withFailure name id outcome') := by
  have forgotten (world : World host) (outcome : Outcome) :
      (world.withFailure name id outcome).Akin
        (world.withFailure name id outcome.withoutFailure) := by
    cases outcome with
    | done => rfl
    | failed message => exact world.logFailure_akin _ _
    | panicked message? => rfl
  have reported (outcome : Outcome) :
      (world.withFailure name id outcome).Akin (world'.withFailure name id outcome) := by
    cases outcome with
    | done => exact akin
    | failed message => exact akin.log _ _ _
    | panicked message? => exact akin.log _ _ _
  have left := forgotten world outcome
  rw [same] at left
  exact left.trans ((reported _).trans (forgotten world' outcome').symm)

end Akin

end World

/-! ## Actions that end alike but for failures -/

/-- Two runs end in worlds that are akin, with related results or for the same reason. -/
inductive EndsAkin {α β : Type} (related : α → β → Prop) :
    EStateM.Result Stop (World host) α → EStateM.Result Stop (World host) β → Prop
  | ok {result : α} {result' : β} {world world' : World host}
      (same : related result result') (akin : world.Akin world') :
      EndsAkin related (.ok result world) (.ok result' world')
  | error (stop : Stop) {world world' : World host} (akin : world.Akin world') :
      EndsAkin related (.error stop world) (.error stop world')

/-- From worlds that are akin two actions end alike but for failures. -/
def Action.Akin {α β : Type} (related : α → β → Prop)
    (action : Action host α) (action' : Action host β) : Prop :=
  ∀ world world', world.Akin world' → EndsAkin related (action world) (action' world')

namespace Action.Akin

variable {α β α' β' : Type} {related : α → β → Prop} {related' : α' → β' → Prop}

theorem pure {result : α} {result' : β} (same : related result result') :
    Akin related (Pure.pure result : Action host α) (Pure.pure result') :=
  fun _ _ akin => .ok same akin

theorem throw (stop : Stop) :
    Akin related (throwThe Stop stop : Action host α) (throwThe Stop stop) :=
  fun _ _ akin => .error stop akin

theorem bind {action : Action host α} {action' : Action host β}
    {next : α → Action host α'} {next' : β → Action host β'}
    (first : Akin related action action')
    (second : ∀ result result', related result result' →
      Akin related' (next result) (next' result')) :
    Akin related' (action >>= next) (action' >>= next') := by
  intro world world' akin
  have begun := first world world' akin
  generalize ran : action world = ended at begun
  generalize ran' : action' world' = ended' at begun
  cases begun with
  | ok same later =>
      rw [bind_of_ok ran, bind_of_ok ran']
      exact second _ _ same _ _ later
  | error stop later =>
      rw [bind_of_error ran, bind_of_error ran']
      exact .error stop later

theorem weaken {related' : α → β → Prop} {action : Action host α} {action' : Action host β}
    (ends : Akin related action action')
    (weaker : ∀ result result', related result result' → related' result result') :
    Akin related' action action' := by
  intro world world' akin
  have ended := ends world world' akin
  generalize action world = result at ended ⊢
  generalize action' world' = result' at ended ⊢
  cases ended with
  | ok same later => exact .ok (weaker _ _ same) later
  | error stop later => exact .error stop later

theorem map {γ : Type} (change : α → γ) {action action' : Action host α}
    (ends : Akin Eq action action') : Akin Eq (change <$> action) (change <$> action') :=
  ends.bind fun _ _ same => .pure (congrArg change same)

theorem look {next : Context host → Action host α} {next' : Context host → Action host β}
    (further : ∀ context context', Context.Akin context context' →
      Akin related (next context) (next' context')) :
    Akin related (getThe (Context host) >>= next) (getThe (Context host) >>= next') :=
  fun world world' akin => further _ _ (congrArg World.context akin) world world' akin

theorem update {change : World host → α × World host} (impartial : World.Impartial change) :
    Akin Eq (Action.update change) (Action.update change) := by
  intro world world' akin
  rcases impartial.akin akin with ⟨answer, later⟩
  exact .ok answer later

theorem modify {change : Context host → α × Context host} (appends : Context.Appends change) :
    Akin Eq (modifyGetThe (Context host) change : Action host α)
      (modifyGetThe (Context host) change) :=
  update (.of_appends appends)

theorem report (level : Log.Level) (message : String) (fields : List (String × String)) :
    Akin Eq (Context.report host level message fields : Action host Unit)
      (Context.report host level message fields) :=
  fun _ _ akin => .ok rfl (akin.log level message fields)

/-- An error that a callback returns counts as a good end, and a panic does not. -/
theorem settle {action action' : Action host (Except String Unit)}
    (ends : Akin (fun _ _ => True) action action') :
    Akin (fun outcome outcome' => outcome.withoutFailure = outcome'.withoutFailure)
      (Action.settle action) (Action.settle action') := by
  intro world world' akin
  have ended := ends world world' akin
  rw [Action.settle, Action.settle]
  generalize action world = result at ended ⊢
  generalize action' world' = result' at ended ⊢
  cases ended with
  | @ok outcome outcome' _ _ _ later =>
      rcases outcome with message | ⟨⟩ <;> rcases outcome' with message' | ⟨⟩ <;>
        exact .ok rfl later
  | error stop later =>
      cases stop with
      | panic message? => exact .ok rfl later
      | halt => exact .error .halt later

end Action.Akin

/-! ## Requests -/

/-- An answer without what it tells of failures. -/
def Request.withoutFailures : (request : Request host) → request.Answer → request.Answer
  | .touch _, report => report.withoutFailures
  | .fireEvent _, report => report.withoutFailures
  | .look, context => context.withoutFailures
  | _, answer => answer

/-- Answers that differ in failures at most. -/
def Request.Akin (request : Request host) (answer answer' : request.Answer) : Prop :=
  request.withoutFailures answer = request.withoutFailures answer'

/-- Handlers that end alike but for failures. -/
structure Handlers.Akin (handlers handlers' : Handlers host) : Prop where
  sensor : ∀ code arguments,
    Action.Akin Eq (handlers.sensor code arguments) (handlers'.sensor code arguments)
  callback : ∀ code,
    Action.Akin (fun outcome outcome' => outcome.withoutFailure = outcome'.withoutFailure)
      (handlers.callback code) (handlers'.callback code)
  probe : ∀ code, Action.Akin Eq (handlers.probe code) (handlers'.probe code)

/-- Evaluations and samples do not look at failures. -/
def impartiality : ContextRelation host (Action host) (Action host) where
  Holds := Action.Akin Eq
  holds_pure := fun _ => .pure rfl
  holds_bind := fun first second => first.bind fun _ _ same => same ▸ second _
  Alike := Context.Akin
  registry_eq := Context.Akin.registry_eq
  watcher_eq := Context.Akin.watcher_eq
  events_eq := Context.Akin.events_eq
  holds_look := .look
  Told := fun _ => True
  told_of_delivery := fun _ _ => trivial
  holds_report := fun _ level fields => .report level _ fields

section Requests

variable {handlers handlers' : Handlers host} (akin : handlers.Akin handlers')
include akin

theorem evaluate_akin (expression : Expression) :
    Action.Akin Eq (Context.evaluate handlers.sensor expression)
      (Context.evaluate handlers'.sensor expression) :=
  impartiality.evaluate .map akin.sensor expression

theorem evaluateText_akin (source : String) :
    Action.Akin Eq (Context.evaluateText handlers.sensor source)
      (Context.evaluateText handlers'.sensor source) := by
  refine (Action.Akin.modify (.parse source)).bind ?_
  rintro outcome _ rfl
  cases outcome with
  | error error => exact .pure rfl
  | ok parsed =>
      refine (evaluate_akin akin parsed.expression).bind ?_
      rintro answer _ rfl
      cases answer <;> exact .pure rfl

/-- Whether a callback returned an error matters to its own report only. -/
theorem notify_akin (name : String) (subscription : Subscription host.Callback) :
    Action.Akin TouchReport.Akin (Context.notify handlers.callback name subscription)
      (Context.notify handlers'.callback name subscription) := by
  intro world world' alike
  have watcher := alike.watcher_eq
  cases live : world.watcher.isLive subscription.id with
  | false =>
      rw [notify_of_gone live, notify_of_gone (watcher ▸ live)]
      exact .ok rfl alike
  | true =>
      have live' : world'.watcher.isLive subscription.id = true := watcher ▸ live
      have ends := akin.callback subscription.callback world world' alike
      generalize ended : handlers.callback subscription.callback world = result at ends
      generalize ended' : handlers'.callback subscription.callback world' = result' at ends
      cases ends with
      | ok same later =>
          rw [notify_of_ended live ended, notify_of_ended live' ended']
          exact .ok rfl (later.withFailure same name subscription.id)
      | error stop later =>
          rw [notify_of_stopped live ended, notify_of_stopped live' ended']
          exact .error stop later

theorem notifyAll_akin (name : String) (subscriptions : List (Subscription host.Callback)) :
    Action.Akin TouchReport.Akin (Context.notifyAll handlers.callback name subscriptions)
      (Context.notifyAll handlers'.callback name subscriptions) := by
  induction subscriptions with
  | nil => exact .pure rfl
  | cons subscription rest induction =>
      refine (notify_akin akin name subscription).bind fun first first' same => ?_
      exact induction.bind fun others others' later => .pure (same.add later)

theorem touch_akin (name : String) :
    Action.Akin TouchReport.Akin (Context.touch handlers.callback name)
      (Context.touch handlers'.callback name) := by
  refine .look fun context context' same => ?_
  rw [same.watcher_eq]
  dsimp only
  split
  · exact .pure rfl
  · exact (Action.Akin.report _ _ _).bind fun _ _ _ => notifyAll_akin akin name _

theorem touchAll_akin (names : List String) :
    Action.Akin TouchReport.Akin (Context.touchAll handlers.callback names)
      (Context.touchAll handlers'.callback names) := by
  induction names with
  | nil => exact .pure rfl
  | cons name rest induction =>
      refine (touch_akin akin name).bind fun first first' same => ?_
      exact induction.bind fun others others' later => .pure (same.add later)

theorem fireEvent_akin (event : String) :
    Action.Akin TouchReport.Akin (Context.fireEvent handlers.callback event)
      (Context.fireEvent handlers'.callback event) := by
  refine .look fun context context' same => ?_
  rw [same.events_eq]
  split
  · exact (Action.Akin.report _ _ _).bind fun _ _ _ => .pure rfl
  · exact (Action.Akin.report _ _ _).bind fun _ _ _ => touchAll_akin akin _

theorem tick_akin :
    Action.Akin Eq (Context.tick handlers.probe handlers.callback)
      (Context.tick handlers'.probe handlers'.callback) := by
  refine .look fun context context' same => ?_
  rw [same.poller_eq]
  have sampled : Action.Akin Eq _ _ := impartiality.sampleAll akin.probe context.poller.probes
  refine sampled.bind ?_
  rintro samples _ rfl
  refine (Action.Akin.modify (.observeAll samples)).bind ?_
  rintro changed _ rfl
  exact (touchAll_akin akin changed).bind fun _ _ _ => .pure rfl

/-- A request is answered alike but for failures. -/
theorem perform_akin (request : Request host) :
    Action.Akin request.Akin (perform handlers request) (perform handlers' request) := by
  have equal {action action' : Action host request.Answer} (ends : Action.Akin Eq action action') :
      Action.Akin request.Akin action action' :=
    ends.weaken fun _ _ => congrArg request.withoutFailures
  cases request with
  | register name arity code => exact equal (.modify (.register name arity code))
  | registerBuiltins => exact equal (.modify .registerBuiltins)
  | parse source => exact equal (.modify (.parse source))
  | compile source => exact equal (.modify (.compile source))
  | evaluate expression => exact equal (evaluate_akin akin expression)
  | evaluateText source => exact equal (evaluateText_akin akin source)
  | subscribe source callback => exact equal (.update (.subscribe source callback))
  | unsubscribe id => exact equal (.update (.unsubscribe id))
  | touch name => exact touch_akin akin name
  | fireEvent event => exact fireEvent_akin akin event
  | bindEvent event names => exact equal (.modify (.bindEvent event names))
  | addProbe sensor code => exact equal (.modify (.addProbe sensor code))
  | tick => exact equal (tick_akin akin)
  | unload => exact equal (.update .unload)
  | look => exact fun world world' same => .ok (congrArg World.context same) same
  | store data => exact equal (.modify (.store data))

end Requests

/-! ## Code -/

/--
Code that asks for the same and ends with related results, whatever the answers are and however many
failures they tell of.
-/
inductive Procedure.SameWork {α β : Type} (related : α → β → Prop) :
    Procedure host α → Procedure host β → Prop where
  | done {result : α} {result' : β} (same : related result result') :
      SameWork related (.done result) (.done result')
  | panic (message? : Option String) : SameWork related (.panic message?) (.panic message?)
  | ask {request : Request host} {next : request.Answer → Procedure host α}
      {next' : request.Answer → Procedure host β}
      (further : ∀ answer answer', request.Akin answer answer' →
        SameWork related (next answer) (next' answer')) :
      SameWork related (.ask request next) (.ask request next')

/-- Programs that do the same work.  Their callbacks may differ in what they return. -/
structure Program.SameWork (program program' : Program host) : Prop where
  sensor : ∀ code arguments,
    (program.sensor code arguments).SameWork Eq (program'.sensor code arguments)
  callback : ∀ code, (program.callback code).SameWork (fun _ _ => True) (program'.callback code)
  probe : ∀ code, (program.probe code).SameWork Eq (program'.probe code)

/-- A request that code has made, the world that it was made in, and the answer if there was one. -/
structure Exchange (host : Host) where
  request : Request host
  before : World host
  answer? : Option request.Answer

/-- The same requests made in worlds that are akin, with answers that are akin. -/
inductive Exchange.Akin : Exchange host → Exchange host → Prop
  | answered {request : Request host} {before before' : World host}
      {answer answer' : request.Answer}
      (akin : before.Akin before') (same : request.Akin answer answer') :
      Akin ⟨request, before, some answer⟩ ⟨request, before', some answer'⟩
  | unanswered (request : Request host) {before before' : World host}
      (akin : before.Akin before') : Akin ⟨request, before, none⟩ ⟨request, before', none⟩

/-- What code asks for in a run, one after the other. -/
def Procedure.exchanges {α : Type} (handlers : Handlers host) :
    Procedure host α → World host → List (Exchange host)
  | .done _, _ => []
  | .panic _, _ => []
  | .ask request next, world =>
    match perform handlers request world with
    | .ok answer later =>
      ⟨request, world, some answer⟩ :: (next answer).exchanges handlers later
    | .error _ _ => [⟨request, world, none⟩]

/-- What a callback asks for, once its start is on record. -/
def Program.exchanges (program : Program host) :
    (depth : Nat) → host.Callback → World host → List (Exchange host)
  | 0, _, _ => []
  | depth + 1, callback, world =>
    (program.callback callback).exchanges (program.handlers depth)
      (world.record (.started callback))

/-- Whatever code asks for, it asks for in a world that has evolved from the first one. -/
theorem Procedure.evolves_exchange {handlers : Handlers host} (evolving : handlers.Evolving)
    {α : Type} (procedure : Procedure host α) {world : World host} {exchange : Exchange host}
    (member : exchange ∈ procedure.exchanges handlers world) :
    world.Evolves exchange.before := by
  induction procedure generalizing world with
  | done result => cases member
  | panic message? => cases member
  | ask request next induction =>
      have performed := perform_linked World.linking_evolves evolving.linked request world
      rw [Procedure.exchanges] at member
      cases ended : perform handlers request world with
      | ok answer later =>
          rw [ended] at member
          rw [Action.after_of_ok ended] at performed
          rcases List.mem_cons.mp member with rfl | rest
          · exact .refl world
          · exact performed.trans (induction answer rest)
      | error stop later =>
          rw [ended] at member
          cases List.mem_singleton.mp member
          exact .refl world

theorem Program.evolves_exchange (program : Program host) {depth : Nat} {callback : host.Callback}
    {world : World host} {exchange : Exchange host}
    (member : exchange ∈ program.exchanges depth callback world) :
    world.Evolves exchange.before := by
  cases depth with
  | zero => cases member
  | succ depth =>
      refine (World.Step.started world callback).evolves.trans ?_
      exact (program.callback callback).evolves_exchange (program.handlers_evolving depth) member

section Code

variable {handlers handlers' : Handlers host} (akin : handlers.Akin handlers')
variable {α β : Type} {related : α → β → Prop}
variable {procedure : Procedure host α} {procedure' : Procedure host β}
variable (same : procedure.SameWork related procedure')
include akin same

theorem Procedure.SameWork.run :
    Action.Akin related (procedure.run handlers) (procedure'.run handlers') := by
  induction same with
  | done same => exact .pure same
  | panic message? => exact .throw (.panic message?)
  | @ask request next next' further induction =>
      exact (perform_akin akin request).bind fun answer answer' same => induction _ _ same

/-- Code that does the same work makes the same requests, and it is answered alike. -/
theorem Procedure.SameWork.exchanges {world world' : World host} (alike : world.Akin world') :
    List.Forall₂ Exchange.Akin (procedure.exchanges handlers world)
      (procedure'.exchanges handlers' world') := by
  induction same generalizing world world' with
  | done same => exact .nil
  | panic message? => exact .nil
  | @ask request next next' further induction =>
      have performed := perform_akin akin request world world' alike
      rw [Procedure.exchanges, Procedure.exchanges]
      generalize perform handlers request world = ended at performed ⊢
      generalize perform handlers' request world' = ended' at performed ⊢
      cases performed with
      | ok same later => exact .cons (.answered alike same) (induction _ _ same later)
      | error stop later => exact .cons (.unanswered request alike) .nil

end Code

/-! ## Programs -/

/-- What a callback has returned is on record, and it is forgotten there. -/
theorem Action.Akin.ended {outcome outcome' : Outcome}
    (same : outcome.withoutFailure = outcome'.withoutFailure) (callback : host.Callback) :
    Action.Akin Eq (Action.record (.ended callback outcome))
      (Action.record (.ended callback outcome')) := by
  intro world world' akin
  refine .ok rfl ?_
  have event : (Event.ended callback outcome).withoutFailure =
      (Event.ended callback outcome').withoutFailure := congrArg (Event.ended callback) same
  show (world.record _).withoutFailures = (world'.record _).withoutFailures
  rw [World.withoutFailures_record, World.withoutFailures_record, event]
  exact congrArg (World.record · _) akin

section Programs

variable {program program' : Program host} (same : program.SameWork program')
include same

theorem Program.SameWork.handlersBy
    {run run' : {α : Type} → Procedure host α → Action host α}
    (ends : ∀ {α : Type} {related : α → α → Prop} {procedure procedure' : Procedure host α},
      procedure.SameWork related procedure' →
        Action.Akin related (run procedure) (run' procedure')) :
    (program.handlersBy run).Akin (program'.handlersBy run') where
  sensor := fun code arguments => ends (same.sensor code arguments)
  callback := by
    intro code
    refine (Action.Akin.update (.started code)).bind fun _ _ _ => ?_
    refine (Action.Akin.settle (ends (same.callback code))).bind fun outcome outcome' alike => ?_
    exact (Action.Akin.ended alike code).bind fun _ _ _ => .pure alike
  probe := fun code => ends (same.probe code)

/-- However deep code is nested, it ends alike but for failures. -/
theorem Program.SameWork.handlers (depth : Nat) :
    (program.handlers depth).Akin (program'.handlers depth) := by
  induction depth with
  | zero => exact same.handlersBy fun _ => .throw .halt
  | succ depth induction => exact same.handlersBy fun work => work.run induction

theorem Program.SameWork.exchanges (depth : Nat) (callback : host.Callback)
    {world world' : World host} (alike : world.Akin world') :
    List.Forall₂ Exchange.Akin (program.exchanges depth callback world)
      (program'.exchanges depth callback world') := by
  cases depth with
  | zero => exact .nil
  | succ depth =>
      have started := (World.Impartial.started callback).akin alike
      exact (same.callback callback).exchanges (same.handlers depth) started.2

end Programs

end Hosting

end Vigil
