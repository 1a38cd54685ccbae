import Vigil.Proofs.Hosting.Verdicts

/-!
# Failures are isolated

A callback that returns an error is counted and written to the journal, and that is all that comes
of it.  There are two sides to this.  In one run, the journal of a pass is what its callbacks have
written, one after the other, with one entry of the pass itself after each of them that failed.  In
two runs whose callbacks do the same work and differ in what they return, the passes keep step: the
same subscriptions have their turns, in worlds that differ in failures at most, and whatever their
callbacks ask for is answered alike, so the passes that are nested in them keep step as well.
-/

namespace Vigil.Hosting

variable {host : Host}

/-! ## Journals grow -/

/-- The entries so far, oldest first. -/
def World.journal (world : World host) : List Log.Entry :=
  world.context.journal.toList

theorem World.context_subscribe (world : World host) (source : String) (callback : host.Callback) :
    (world.subscribe source callback).2.context =
      (world.context.subscribe source callback).2 := by
  rw [World.subscribe]
  rcases world.context.subscribe source callback with ⟨error | id, context⟩ <;> rfl

theorem World.context_unsubscribe (world : World host) (id : SubscriptionId) :
    (world.unsubscribe id).2.context = (world.context.unsubscribe id).2 := by
  rw [World.unsubscribe]
  rcases world.context.unsubscribe id with ⟨_ | _, context⟩ <;> rfl

theorem World.journal_log (world : World host) (level : Log.Level) (message : String)
    (fields : List (String × String)) :
    (world.withContext (world.context.log level message fields)).journal =
      world.journal ++ [⟨level, message, fields⟩] :=
  Array.toList_push

theorem World.Step.journal_prefix {before after : World host} (step : before.Step after) :
    before.journal <+: after.journal := by
  cases step with
  | register name arity code => exact (Context.Appends.register name arity code).grows _
  | registerBuiltins => exact Context.Appends.registerBuiltins.grows _
  | parse source => exact (Context.Appends.parse source).grows _
  | subscribe source callback =>
      rw [World.journal, World.journal, World.context_subscribe]
      exact (Context.Appends.subscribe source callback).grows _
  | unsubscribe id =>
      rw [World.journal, World.journal, World.context_unsubscribe]
      exact (Context.Appends.unsubscribe id).grows _
  | unload => exact Context.Appends.unload.grows _
  | bindEvent event names => exact (Context.Appends.bindEvent event names).grows _
  | addProbe sensor code => exact (Context.Appends.addProbe sensor code).grows _
  | observe samples => exact (Context.Appends.observeAll samples).grows _
  | report level message fields =>
      rw [World.journal_log]
      exact List.prefix_append _ _
  | store data => exact (Context.Appends.store data).grows _
  | started callback => exact List.prefix_refl _
  | ended callback outcome => exact List.prefix_refl _

/-- Nothing that has been written is taken back. -/
theorem World.Evolves.journal_prefix {before after : World host} (evolves : before.Evolves after) :
    before.journal <+: after.journal := by
  induction evolves with
  | refl => exact List.prefix_refl _
  | tail _ step induction => exact induction.trans step.journal_prefix

/-! ## What a pass writes -/

namespace Turn

/-- Whether the callback returned an error. -/
def erred (turn : Turn host) : Bool :=
  match turn.outcome? with
  | some (.failed _) => true
  | _ => false

/-- Whether the callback panicked. -/
def panicked (turn : Turn host) : Bool :=
  match turn.outcome? with
  | some (.panicked _) => true
  | _ => false

theorem countP_failed (turns : List (Turn host)) :
    turns.countP failed = turns.countP erred + turns.countP panicked := by
  induction turns with
  | nil => rfl
  | cons turn rest induction =>
      rw [List.countP_cons, List.countP_cons, List.countP_cons, induction]
      rcases turn with ⟨subscription, before, _ | _ | _ | _⟩ <;> simp [failed, erred, panicked] <;>
        omega

/--
What the pass itself writes after a turn: one entry if the callback did not end well.  It carries
the number of the subscription, behind a mark, and the name of the function.
-/
def complaint? (name : String) (turn : Turn host) : Option Log.Entry :=
  let subject := [("subscription", "#" ++ toString turn.subscription.id), ("function", name)]
  match turn.outcome? with
  | some (.failed message) =>
    some ⟨.warn, "condition callback failed", subject ++ [("error", message)]⟩
  | some (.panicked message?) =>
    some ⟨.error, "condition callback panicked",
      subject ++ [("panic", message?.getD Context.unreadablePanic)]⟩
  | _ => none

theorem fields_of_complaint? {turn : Turn host} {name : String} {entry : Log.Entry}
    (complained : turn.complaint? name = some entry) :
    entry.fields.take 2 =
      [("subscription", SubscriptionId.label turn.subscription.id), ("function", name)] := by
  rw [complaint?] at complained
  split at complained
  · cases complained
    rfl
  · cases complained
    rfl
  · cases complained

/-- A complaint tells which subscription and which function it is about. -/
theorem eq_of_complaint? {turn turn' : Turn host} {name name' : String} {entry : Log.Entry}
    (complained : turn.complaint? name = some entry)
    (complained' : turn'.complaint? name' = some entry) :
    turn.subscription.id = turn'.subscription.id ∧ name = name' := by
  have same := (fields_of_complaint? complained).symm.trans (fields_of_complaint? complained')
  simp only [List.cons.injEq, Prod.mk.injEq, true_and, and_true] at same
  exact ⟨SubscriptionId.label_injective same.1, same.2⟩

/-- What is written while the callback is running. -/
def nested (handlers : Handlers host) (turn : Turn host) : List Log.Entry :=
  if turn.started then
    ((handlers.callback turn.subscription.callback).after turn.before).journal.drop
      turn.before.journal.length
  else []

/-- What the callback asks for. -/
def exchanges (program : Program host) (depth : Nat) (turn : Turn host) : List (Exchange host) :=
  if turn.started then program.exchanges depth turn.subscription.callback turn.before else []

end Turn

theorem World.journal_withFailure (returned : World host) (name : String)
    (subscription : Subscription host.Callback) (before : World host) (outcome : Outcome) :
    (returned.withFailure name subscription.id outcome).journal =
      returned.journal ++
        (Turn.complaint? name ⟨subscription, before, some outcome⟩).toList := by
  cases outcome with
  | done => exact (List.append_nil _).symm
  | failed message => exact returned.journal_log _ _ _
  | panicked message? => exact returned.journal_log _ _ _

/-- A pass writes nothing but its complaints, each after what was written in the turn. -/
theorem Pass.journal_eq {handlers : Handlers host} (evolving : handlers.Evolving) {name : String}
    {world final : World host} {turns : List (Turn host)}
    (pass : Pass handlers name world turns final) :
    final.journal = world.journal ++
      turns.flatMap fun turn => turn.nested handlers ++ (turn.complaint? name).toList := by
  induction pass with
  | done world => exact (List.append_nil _).symm
  | skip subscription gone later induction => exact induction
  | @start world returned final turns outcome subscription live ended later induction =>
      have evolves := evolving.callback subscription.callback world
      rw [Action.after_of_ok ended] at evolves
      rcases evolves.journal_prefix with ⟨written, grown⟩
      have nested : Turn.nested handlers ⟨subscription, world, some outcome⟩ = written := by
        refine (if_pos rfl).trans ?_
        dsimp only
        rw [Action.after_of_ok ended, ← grown, List.drop_left]
      rw [List.flatMap_cons, induction, World.journal_withFailure _ _ _ world, nested, ← grown]
      simp only [List.append_assoc]

/-! ## Passes that keep step -/

/-- The same turn in two passes, up to failures. -/
structure Turn.Akin (turn turn' : Turn host) : Prop where
  subscription_eq : turn'.subscription = turn.subscription
  before : turn.before.Akin turn'.before
  outcome : turn.outcome?.map Outcome.withoutFailure = turn'.outcome?.map Outcome.withoutFailure

theorem World.Akin.starts_eq {world world' : World host} (akin : world.Akin world') :
    world'.starts = world.starts := by
  have kept (events : List (Event host)) :
      (events.map Event.withoutFailure).filterMap Event.started? =
        events.filterMap Event.started? := by
    rw [List.filterMap_map]
    congr 1
    funext event
    cases event <;> rfl
  have events : world.events.map _ = world'.events.map _ := congrArg World.events akin
  rw [World.starts, World.starts, ← kept, ← events, kept]

/-- What is written as a touch begins is the same. -/
theorem World.Akin.announced {world world' : World host} (akin : world.Akin world')
    (name : String) : (world.announced name).Akin (world'.announced name) := by
  rw [World.announced, World.announced, World.withTouch, World.withTouch, akin.watcher_eq]
  split
  · exact akin
  · exact akin.log _ _ _

theorem World.announced_evolves (world : World host) (name : String) :
    world.Evolves (world.announced name) := by
  rw [World.announced]
  split
  · exact .refl world
  · exact world.withTouch_evolves name

theorem Turn.Akin.started_eq {turn turn' : Turn host} (akin : turn.Akin turn') :
    turn'.started = turn.started := by
  have same := congrArg Option.isSome akin.outcome
  rw [Option.isSome_map, Option.isSome_map] at same
  exact same.symm

/-- A callback is started in worlds that are akin, and what it asks for is answered alike. -/
theorem Turn.Akin.exchanges {turn turn' : Turn host} (akin : turn.Akin turn')
    {program program' : Program host} (same : program.SameWork program') (depth : Nat) :
    List.Forall₂ Exchange.Akin (turn.exchanges program depth) (turn'.exchanges program' depth) := by
  rw [Turn.exchanges, Turn.exchanges, akin.started_eq, akin.subscription_eq]
  split
  · exact same.exchanges depth turn.subscription.callback akin.before
  · exact .nil

theorem Pass.akin {handlers handlers' : Handlers host} (akin : handlers.Akin handlers')
    {name : String} {world final world' final' : World host} {turns turns' : List (Turn host)}
    (pass : Pass handlers name world turns final)
    (pass' : Pass handlers' name world' turns' final')
    (listed : turns'.map Turn.subscription = turns.map Turn.subscription)
    (alike : world.Akin world') : List.Forall₂ Turn.Akin turns turns' := by
  induction pass generalizing world' turns' with
  | done world =>
      cases List.map_eq_nil_iff.mp listed
      exact .nil
  | @skip world final turns subscription gone later induction =>
      have watcher := alike.watcher_eq
      cases pass' with
      | done => cases listed
      | @skip _ _ turns' subscription' gone' later' =>
          rcases List.cons.inj listed with ⟨rfl, rest⟩
          exact .cons ⟨rfl, alike, rfl⟩ (induction later' rest alike)
      | @start _ _ _ turns' outcome' subscription' live' ended' later' =>
          rcases List.cons.inj listed with ⟨rfl, rest⟩
          rw [watcher, gone] at live'
          cases live'
  | @start world returned final turns outcome subscription live ended later induction =>
      have watcher := alike.watcher_eq
      cases pass' with
      | done => cases listed
      | @skip _ _ turns' subscription' gone' later' =>
          rcases List.cons.inj listed with ⟨rfl, rest⟩
          rw [watcher, live] at gone'
          cases gone'
      | @start _ _ _ turns' outcome' subscription' live' ended' later' =>
          rcases List.cons.inj listed with ⟨rfl, rest⟩
          have ends := akin.callback subscription'.callback world world' alike
          rw [ended, ended'] at ends
          rcases ends with ⟨same, between⟩
          refine .cons ⟨rfl, alike, congrArg some same⟩ (induction later' rest ?_)
          exact between.withFailure same name subscription'.id

/-! ## The theorem -/

/-- The account that can be given of a touch: turns that explain its report and its journal. -/
structure Account (handlers : Handlers host) (name : String) (world : World host)
    (turns : List (Turn host)) (report : TouchReport) (final : World host) : Prop where
  pass : Pass handlers name (world.announced name) turns final
  listed : turns.map Turn.subscription = world.watcher.subscribers name
  invoked : report.invoked = turns.countP Turn.started
  skipped : report.skipped = turns.countP fun turn => !turn.started
  failed : report.failed = turns.countP Turn.erred + turns.countP Turn.panicked
  journal : final.journal = (world.announced name).journal ++
    turns.flatMap fun turn => turn.nested handlers ++ (turn.complaint? name).toList

/-- Every touch that ends can be accounted for. -/
theorem World.Faithful.exists_account {world : World host} (faithful : world.Faithful)
    {handlers : Handlers host} (evolving : handlers.Evolving) {name : String}
    {report : TouchReport} {final : World host}
    (touched : Context.touch handlers.callback name world = .ok report final) :
    ∃ turns, Account handlers name world turns report final := by
  rcases faithful.exists_pass_of_touch touched with ⟨turns, pass, listed, rfl⟩
  exact ⟨turns, pass, listed, rfl, rfl, Turn.countP_failed turns, pass.journal_eq evolving⟩

/-- Whatever is asked for in the turns of a touch is asked for in reachable worlds. -/
theorem Account.reachable {program : Program host} {depth : Nat} {name : String}
    {world final : World host} {turns : List (Turn host)} {report : TouchReport}
    (account : Account (program.handlers depth) name world turns report final)
    (reachable : world.Reachable) {turn : Turn host} (member : turn ∈ turns)
    {exchange : Exchange host} (asked : exchange ∈ turn.exchanges program depth) :
    exchange.before.Reachable := by
  have begun : (world.announced name).Reachable := reachable.evolves (world.announced_evolves name)
  have before := (account.pass.evolves_turn (program.handlers_evolving depth) member).1
  rw [Turn.exchanges] at asked
  split at asked
  · exact begun.evolves (before.trans (program.evolves_exchange asked))
  · cases asked

/-- Touches by handlers that are akin, in worlds that are akin, have turns that are akin. -/
theorem Account.akin {handlers handlers' : Handlers host} (akin : handlers.Akin handlers')
    {name : String} {world final world' final' : World host} {turns turns' : List (Turn host)}
    {report report' : TouchReport}
    (account : Account handlers name world turns report final)
    (account' : Account handlers' name world' turns' report' final')
    (alike : world.Akin world') : List.Forall₂ Turn.Akin turns turns' := by
  refine account.pass.akin akin account'.pass ?_ (alike.announced name)
  rw [account.listed, account'.listed, alike.watcher_eq]

/--
Take two programs that do the same work and whose callbacks differ in what they return, and let both
touch a function in worlds that differ in failures at most, for instance in one world.  Either touch
ends if the other does.  Then the same callbacks have been started in the same order, at whatever
depth, the watchers are the same in the end, and so are the data of the host and the two reports,
but for the numbers of failures.  The turns of the two passes correspond, and what a callback asks
for in its turn is asked for in reachable worlds that are akin again.  So the touches that are
nested in it compare in the same way, and so does all else that is asked for at any level.

Each of the two touches accounts for itself: it counts the callbacks that it started itself and that
returned an error or panicked, and it writes one entry for each of these, in the order of their
turns and after what the callback has written.  The entry carries the number of the subscription and
the name that was touched, so both can be told from it.
-/
theorem failures_are_isolated
    {world world' : World host} (reachable : world.Reachable) (reachable' : world'.Reachable)
    (akin : world.Akin world')
    {program program' : Program host} (same : program.SameWork program')
    (depth : Nat) (name : String) :
    let handlers := program.handlers depth
    let handlers' := program'.handlers depth
    EndsAkin TouchReport.Akin (Context.touch handlers.callback name world)
      (Context.touch handlers'.callback name world') ∧
    (∀ report final, Context.touch handlers.callback name world = .ok report final →
      ∃ report' final' turns turns',
        Context.touch handlers'.callback name world' = .ok report' final' ∧
        report'.invoked = report.invoked ∧
        report'.skipped = report.skipped ∧
        final'.watcher = final.watcher ∧
        final'.context.data = final.context.data ∧
        final'.starts = final.starts ∧
        List.Forall₂
          (fun turn turn' => turn.Akin turn' ∧
            List.Forall₂ Exchange.Akin (turn.exchanges program depth)
              (turn'.exchanges program' depth))
          turns turns' ∧
        (∀ turn ∈ turns, ∀ exchange ∈ turn.exchanges program depth, exchange.before.Reachable) ∧
        (∀ turn ∈ turns', ∀ exchange ∈ turn.exchanges program' depth,
          exchange.before.Reachable) ∧
        Account handlers name world turns report final ∧
        Account handlers' name world' turns' report' final') ∧
    (∀ level before before', before.Akin before' → ∀ request,
      EndsAkin request.Akin (perform (program.handlers level) request before)
        (perform (program'.handlers level) request before')) ∧
    ∀ (turn turn' : Turn host) touched touched' entry,
      turn.complaint? touched = some entry → turn'.complaint? touched' = some entry →
        turn.subscription.id = turn'.subscription.id ∧ touched = touched' := by
  intro handlers handlers'
  have akinHandlers (level : Nat) := same.handlers level
  have ends := touch_akin (akinHandlers depth) name world world' akin
  refine ⟨ends, fun report final touched => ?_, fun level before before' alike request => ?_,
    fun _ _ _ _ _ complained complained' => Turn.eq_of_complaint? complained complained'⟩
  · rw [touched] at ends
    generalize touched' : Context.touch handlers'.callback name world' = ended at ends
    rcases ends with @⟨_, report', _, final', alike, later⟩
    rcases reachable.faithful.exists_account (program.handlers_evolving depth) touched with
      ⟨turns, account⟩
    rcases reachable'.faithful.exists_account (program'.handlers_evolving depth) touched' with
      ⟨turns', account'⟩
    have counted : report.withoutFailures = report'.withoutFailures := alike
    refine ⟨report', final', turns, turns', rfl, ?_, ?_, later.watcher_eq, ?_, later.starts_eq, ?_,
      fun turn member exchange => account.reachable reachable member,
      fun turn member exchange => account'.reachable reachable' member, account, account'⟩
    · exact (congrArg TouchReport.invoked counted).symm
    · exact (congrArg TouchReport.skipped counted).symm
    · exact later.context.data_eq
    · refine (account.akin (akinHandlers depth) account' akin).imp fun turn turn' alike => ?_
      exact ⟨alike, alike.exchanges same depth⟩
  · exact perform_akin (akinHandlers level) request before before' alike

/-- The same errands as before, but nobody fails. -/
def Errand.pardoned : Program office where
  sensor := nofun
  callback
    | .meddle =>
      .ask (.unsubscribe 1) fun _ =>
      .ask (.unsubscribe 3) fun _ =>
      .ask (.subscribe "f()" Errand.fail) fun _ =>
      .ask (.touch "f") fun _ =>
      .done (.ok ())
    | _ => .done (.ok ())
  probe := nofun

theorem Errand.program_sameWork_pardoned : program.SameWork pardoned where
  sensor := nofun
  callback := by
    intro errand
    cases errand with
    | meddle =>
        refine .ask fun _ _ _ => .ask fun _ _ _ => .ask fun _ _ _ => .ask fun _ _ _ => ?_
        exact .done trivial
    | fail => exact .done trivial
    | rest => exact .done trivial
  probe := nofun

theorem failures_are_isolated_pardoned :
    (Context.touch (Errand.program.handlers 2).callback "f").result? Errand.waiting =
      some ⟨2, 1, 1⟩ ∧
    (Context.touch (Errand.pardoned.handlers 2).callback "f").result? Errand.waiting =
      some ⟨2, 0, 1⟩ ∧
    ∃ turns turns' : List (Turn Errand.office),
      List.Forall₂ Turn.Akin turns turns' ∧
      turns.countP Turn.erred + turns.countP Turn.panicked = 1 ∧
      turns'.countP Turn.erred + turns'.countP Turn.panicked = 0 := by
  have ended :
      (Context.touch (Errand.program.handlers 2).callback "f").result? Errand.waiting =
        some ⟨2, 1, 1⟩ := by
    decide +kernel
  have ended' :
      (Context.touch (Errand.pardoned.handlers 2).callback "f").result? Errand.waiting =
        some ⟨2, 0, 1⟩ := by
    decide +kernel
  have reachable := Errand.waiting_reachable
  have isolated := (failures_are_isolated reachable reachable rfl
    Errand.program_sameWork_pardoned 2 "f").2.1 _ _ (Action.eq_ok_of_result? ended)
  rcases isolated with
    ⟨report', final', turns, turns', touched', -, -, -, -, -, step, -, -, account, account'⟩
  have same : report' = ⟨2, 0, 1⟩ := by
    have both := touched'.symm.trans (Action.eq_ok_of_result? ended')
    cases both
    rfl
  refine ⟨ended, ended', turns, turns', step.imp fun _ _ akin => akin.1, account.failed.symm, ?_⟩
  rw [← account'.failed, same]

end Vigil.Hosting
