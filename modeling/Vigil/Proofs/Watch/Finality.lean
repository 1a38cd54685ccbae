import Vigil.Proofs.Watch.Pass

/-!
# Unloading is final

Unloading empties three stores, one after the other: the watcher, the event bindings and the probes.
Each of them has its own way to be filled again, and all of these are barred.  A world in which the
three are empty for good is `Shut`, and it stays so under every operation.

Passes that have begun before the unloading still hold the subscriptions, names and probes that
they began with.  They start nobody any more, since they look whether a subscription is live before
they start it.  For this it does not suffice that a run consists of operations: `World.Proceeds`
says in addition that no operation starts a callback after the unloading.
-/

namespace Vigil.Hosting

variable {host : Host}

/-! ## Worlds that have been shut -/

/-- A world that has been unloaded, with nothing left that could be touched, fired or sampled. -/
structure World.Shut (world : World host) : Prop where
  unloaded : world.watcher.unloaded = true
  byName : world.watcher.byName = .empty
  byId : world.watcher.byId = .empty
  events : world.context.events = .empty
  probes : world.context.poller.probes = []

theorem World.shut_unload (world : World host) : world.unload.Shut where
  unloaded := rfl
  byName := rfl
  byId := rfl
  events := rfl
  probes := rfl

theorem Poller.probes_observeAll {Code : Type} {poller : Poller Code} (none : poller.probes = [])
    (samples : List (String × Value)) : poller.observeAll samples = ([], poller) := by
  induction samples with
  | nil => rfl
  | cons sample rest induction =>
      rw [Poller.observeAll, Poller.observe, none]
      dsimp only [List.find?]
      rw [induction]
      rfl

namespace World.Shut

variable {world after : World host} (shut : world.Shut)
include shut

/-- Only the record and the journal grow, or what the three stores do not hold. -/
theorem of_same
    (watcher : after.watcher.unloaded = world.watcher.unloaded ∧
      after.watcher.byName = world.watcher.byName ∧ after.watcher.byId = world.watcher.byId)
    (events : after.context.events = world.context.events)
    (probes : after.context.poller.probes = world.context.poller.probes) : after.Shut where
  unloaded := watcher.1.trans shut.unloaded
  byName := watcher.2.1.trans shut.byName
  byId := watcher.2.2.trans shut.byId
  events := events.trans shut.events
  probes := probes.trans shut.probes

theorem observeAll (samples : List (String × Value)) :
    world.context.observeAll samples = ([], world.context) := by
  rw [Context.observeAll, Poller.probes_observeAll shut.probes]
  rfl

theorem bindEvent (event : String) (names : List String) :
    world.context.bindEvent event names = world.context := by
  rw [Context.bindEvent]
  exact if_pos shut.unloaded

theorem addProbe (sensor : String) (code : host.Probe) :
    world.context.addProbe sensor code = (.ok (), world.context) := by
  rw [Context.addProbe]
  exact if_pos shut.unloaded

theorem unsubscribe (id : SubscriptionId) : world.unsubscribe id = (false, world) := by
  rcases world.unsubscribe_cases id with unknown | ⟨names, journal, known, -⟩
  · exact unknown
  · rw [Watcher.watchedNames?, shut.byId] at known
    cases known

theorem step (step : world.Step after) : after.Shut := by
  cases step with
  | register name arity code =>
      rw [Context.register]
      split
      · exact shut
      · exact shut.of_same ⟨rfl, rfl, rfl⟩ rfl rfl
  | registerBuiltins => exact shut.of_same ⟨rfl, rfl, rfl⟩ rfl rfl
  | subscribe source callback =>
      rcases world.subscribe_cases source callback with
        ⟨error, failed⟩ | ⟨names, journal, found, subscribed⟩
      · rw [failed]
        exact shut
      · rw [subscribed, Watcher.subscribe_of_unloaded _ shut.unloaded]
        exact shut.of_same ⟨rfl, rfl, rfl⟩ rfl rfl
  | unsubscribe id =>
      rw [shut.unsubscribe]
      exact shut
  | unload => exact world.shut_unload
  | bindEvent event names =>
      rw [shut.bindEvent]
      exact shut
  | addProbe sensor code =>
      rw [shut.addProbe]
      exact shut
  | observe samples =>
      rw [shut.observeAll]
      exact shut
  | _ => exact shut.of_same ⟨rfl, rfl, rfl⟩ rfl rfl

theorem evolves (evolves : world.Evolves after) : after.Shut := by
  induction evolves with
  | refl => exact shut
  | tail _ step induction => exact induction.step step

end World.Shut

/-- Only the unloading puts itself on record. -/
theorem World.Step.unloaded_or_eq {before after : World host} (step : before.Step after)
    (recorded : .unloaded ∈ after.events) : .unloaded ∈ before.events ∨ after = before.unload := by
  cases step with
  | subscribe source callback =>
      rcases before.subscribe_cases source callback with
        ⟨error, failed⟩ | ⟨names, journal, -, subscribed⟩
      · exact .inl (by rwa [failed] at recorded)
      · rw [subscribed] at recorded
        exact .inl (by simpa [record, withContext] using recorded)
  | unsubscribe id =>
      rcases before.unsubscribe_cases id with unknown | ⟨names, journal, -, unsubscribed⟩
      · exact .inl (by rwa [unknown] at recorded)
      · rw [unsubscribed] at recorded
        exact .inl (by simpa [record, withContext] using recorded)
  | unload => exact .inr rfl
  | started callback => exact .inl (by simpa [record] using recorded)
  | ended callback outcome => exact .inl (by simpa [record] using recorded)
  | _ => exact .inl recorded

/-- A world that has been unloaded at whatever moment and by whatever code is shut. -/
theorem World.Reachable.shut {world : World host} (reachable : world.Reachable)
    (unloaded : .unloaded ∈ world.events) : world.Shut := by
  rcases reachable with ⟨start, fresh, evolves⟩
  induction evolves with
  | refl =>
      rw [fresh.events_eq] at unloaded
      cases unloaded
  | tail _ step induction =>
      rcases step.unloaded_or_eq unloaded with before | rfl
      · exact (induction before).step step
      · exact shut_unload _

/-! ## Asking a world that has been shut -/

namespace World.Shut

variable {world : World host} (shut : world.Shut) (handlers : Handlers host)
include shut

theorem touch (name : String) : perform handlers (.touch name) world = .ok .none world := by
  refine touch_of_unwatched ?_
  rw [Watcher.subscribers, shut.byName]
  rfl

theorem fireEvent (event : String) :
    ∃ final, perform handlers (.fireEvent event) world = .ok .none final := by
  refine ⟨world.withContext
    (world.context.log .debug "event has no bindings" [("event", event)]), ?_⟩
  refine (Action.bind_of_ok (Action.look_of world)).trans ?_
  rw [EventBindings.touches?, shut.events]
  rfl

theorem tick : perform handlers .tick world = .ok [] world := by
  refine (Action.bind_of_ok (Action.look_of world)).trans ?_
  rw [shut.probes]
  rfl

end World.Shut

/-- In a world that has been shut, a text of tokens still gets a number, and this is all. -/
theorem World.Faithful.subscribe_of_shut {world : World host} (faithful : world.Faithful)
    (shut : world.Shut) {source : String} {tokens : List Token}
    (tokenized : Token.tokenize source = .ok tokens) (callback : host.Callback) :
    ∃ id after,
      world.subscribe source callback = (.ok id, after) ∧ id ∉ world.handedOut ∧
        ∀ final, after.Evolves final → final.unsubscribe id = (false, final) := by
  have found : Token.namesIn source = .ok (Token.functionNames tokens) := by
    rw [Token.namesIn, tokenized]
    rfl
  rcases Context.subscribe_of_ok found world.context callback with ⟨journal, subscribed⟩
  have step := World.Step.subscribe world source callback
  rw [World.subscribe, subscribed] at step ⊢
  refine ⟨_, _, rfl, ?_, ?_⟩
  · intro issued
    exact Nat.lt_irrefl _ (faithful.below _ issued)
  · intro final evolves
    exact ((shut.step step).evolves evolves).unsubscribe _

/-! ## Runs start nobody after the unloading -/

/-- Any number of operations, none of which starts a callback after the unloading. -/
def World.Proceeds : World host → World host → Prop :=
  Relation.ReflTransGen fun before after =>
    before.Step after ∧ (before.watcher.unloaded = true → after.starts = before.starts)

theorem World.linking_proceeds :
    World.Linking (World.Proceeds : World host → World host → Prop) where
  refl := fun _ => .refl
  trans := .trans
  step := fun step silent => .single ⟨step, silent⟩

theorem World.Proceeds.evolves {before after : World host} (proceeds : before.Proceeds after) :
    before.Evolves after := by
  induction proceeds with
  | refl => exact .refl _
  | tail _ step induction => exact induction.trans step.1.evolves

/-- A callback that an operation starts is started in a world that has not been unloaded. -/
theorem World.Faithful.loaded_of_start {before after : World host} (faithful : before.Faithful)
    (silent : before.watcher.unloaded = true → after.starts = before.starts)
    {callback : host.Callback} (started : after.events = before.events ++ [.started callback]) :
    .unloaded ∉ before.events := by
  intro gone
  have unloaded : before.watcher.unloaded = true :=
    faithful.unloaded_iff.mpr (mem_dealings.mpr ⟨gone, rfl⟩)
  have same := silent unloaded
  simp [starts, started, Event.started?] at same

/-- Where a callback has been started since, nothing had been unloaded. -/
theorem World.Faithful.loaded_of_started {before after : World host}
    (faithful : before.Faithful) (proceeds : before.Proceeds after)
    {earlier later : List (Event host)} {callback : host.Callback}
    (recorded : after.events = before.events ++ earlier ++ .started callback :: later) :
    .unloaded ∉ before.events ++ earlier := by
  induction proceeds generalizing later with
  | refl =>
      have long := congrArg List.length recorded
      simp at long
  | @tail middle after proceeds step induction =>
      rcases step with ⟨step, silent⟩
      have faithfulThen : middle.Faithful := faithful.evolves (World.Proceeds.evolves proceeds)
      rcases step.appends with unchanged | ⟨event, grown⟩
      · exact induction (unchanged ▸ recorded)
      · rw [grown] at recorded
        rcases List.eq_nil_or_concat later with rfl | ⟨others, last, rfl⟩
        · obtain ⟨same, started⟩ := List.append_inj' recorded rfl
          rw [started] at grown
          exact same ▸ faithfulThen.loaded_of_start silent grown
        · have recorded' : middle.events ++ [event] =
              (before.events ++ earlier ++ .started callback :: others) ++ [last] := by
            simpa using recorded
          exact induction (List.append_inj' recorded' rfl).1

/-! ## The theorem -/

/--
Unloading is final.  It is on record in every world that follows.  In a reachable world that has it
on record there are no subscriptions, bindings and probes; touching and firing report nothing, a
tick finds no change, and subscribing a text of tokens gives a number that was never given before
and that cannot be removed.  And whatever code is run in a reachable world, also code that unloads
while passes are in progress: no callback is started after an unloading.
-/
theorem unload_is_final {world : World host} (reachable : world.Reachable) :
    (∀ later, world.unload.Evolves later → .unloaded ∈ later.events) ∧
    (.unloaded ∈ world.events →
      world.watcher.subscriptionCount = 0 ∧
      world.context.events = .empty ∧
      world.context.poller.probes = [] ∧
      (∀ (program : Program host) depth,
        (∀ name, perform (program.handlers depth) (.touch name) world = .ok .none world) ∧
        (∀ event, ∃ final,
          perform (program.handlers depth) (.fireEvent event) world = .ok .none final) ∧
        perform (program.handlers depth) .tick world = .ok [] world) ∧
      ∀ source tokens callback, Token.tokenize source = .ok tokens →
        ∃ id after,
          world.subscribe source callback = (.ok id, after) ∧ id ∉ world.handedOut ∧
            ∀ final, after.Evolves final → final.unsubscribe id = (false, final)) ∧
    ∀ (program : Program host) depth {α : Type} (procedure : Procedure host α)
        earlier callback following,
      ((procedure.run (program.handlers depth)).after world).events =
          world.events ++ earlier ++ .started callback :: following →
        .unloaded ∉ world.events ++ earlier := by
  refine ⟨?_, ?_, ?_⟩
  · intro later evolves
    exact evolves.grows.subset (List.mem_append_right _ (List.mem_singleton_self _))
  · intro unloaded
    have shut := reachable.shut unloaded
    refine ⟨?_, shut.events, shut.probes, ?_, ?_⟩
    · rw [Watcher.subscriptionCount, shut.byId]
      rfl
    · intro program depth
      exact ⟨shut.touch _, shut.fireEvent _, shut.tick _⟩
    · intro source tokens callback tokenized
      exact reachable.faithful.subscribe_of_shut shut tokenized callback
  · intro program depth α procedure earlier callback following recorded
    have linked := program.handlers_linked World.linking_proceeds depth
    have proceeds := procedure.run_linked World.linking_proceeds linked world
    exact reachable.faithful.loaded_of_started proceeds recorded

/-- Here who meddles unloads everything, and then subscribes and touches. -/
def Errand.quitting : Program office where
  sensor := nofun
  callback
    | .meddle =>
      .ask .unload fun _ =>
      .ask (.subscribe "f()" Errand.rest) fun _ =>
      .ask (.touch "f") fun _ =>
      .done (.ok ())
    | _ => .done (.ok ())
  probe := nofun

/-- The world after the first of three subscriptions has unloaded everything during the touch. -/
def Errand.closed : World office :=
  ((Procedure.ask (.touch "f") .done).run (quitting.handlers 2)).after waiting

theorem unload_is_final_quitting :
    (Context.touch (Errand.quitting.handlers 2).callback "f").result? Errand.waiting =
        some ⟨1, 0, 2⟩ ∧
      Errand.closed.watcher.subscriptionCount = 0 ∧
      (∀ name,
        perform (Errand.quitting.handlers 2) (.touch name) Errand.closed =
          .ok .none Errand.closed) ∧
      ∀ earlier callback following,
        Errand.closed.events =
            Errand.waiting.events ++ earlier ++ .started callback :: following →
          .unloaded ∉ Errand.waiting.events ++ earlier := by
  have waiting := unload_is_final Errand.waiting_reachable
  have closed : Errand.closed.Reachable := Errand.waiting_reachable.run Errand.quitting 2 _
  have unloaded : .unloaded ∈ Errand.closed.events :=
    (World.mem_dealings.mp (closed.faithful.unloaded_iff.mp (by decide +kernel))).1
  have final := (unload_is_final closed).2.1 unloaded
  refine ⟨by decide +kernel, final.1, (final.2.2.2.1 Errand.quitting 2).1, ?_⟩
  exact waiting.2.2 Errand.quitting 2 _

end Vigil.Hosting
