import Vigil.Proofs.Watch.History

/-!
# Passes

A touch notifies, one by one, those who watched the function as it began.  `Pass` tells this story
turn by turn: who is no longer live is skipped, and the callback of everyone else is run, whatever
it does to the world and however deep it is nested.  A touch that ends is such a pass, and a pass
can be continued by those whose turn is still to come.
-/

namespace Vigil.Hosting

variable {host : Host}

/-! ## Turns -/

/-- The turn of a subscription: the world that it meets, and how its callback ended, if started. -/
structure Turn (host : Host) where
  subscription : Subscription host.Callback
  before : World host
  outcome? : Option Outcome

namespace Turn

/-- Whether the callback was started. -/
def started (turn : Turn host) : Bool :=
  turn.outcome?.isSome

/-- Whether the callback was started and did not end well. -/
def failed (turn : Turn host) : Bool :=
  turn.outcome?.any (· ≠ .done)

/-- The report of some turns. -/
def report (turns : List (Turn host)) : TouchReport where
  invoked := turns.countP started
  failed := turns.countP failed
  skipped := turns.countP fun turn => !turn.started

theorem report_cons (turn : Turn host) (turns : List (Turn host)) :
    report (turn :: turns) = report [turn] + report turns := by
  show report (turn :: turns) = TouchReport.add (report [turn]) (report turns)
  simp only [report, TouchReport.add, List.countP_cons, List.countP_nil, Nat.zero_add,
    Nat.add_comm]

theorem report_invoked_add_skipped (turns : List (Turn host)) :
    (report turns).invoked + (report turns).skipped = turns.length := by
  rw [List.length_eq_countP_add_countP started]
  simp [report]

end Turn

namespace World

/-- A failed callback is reported in the journal. -/
def withFailure (world : World host) (name : String) (id : SubscriptionId) : Outcome → World host
  | .done => world
  | .failed message =>
    world.withContext
      (world.context.log .warn "condition callback failed"
        [("subscription", SubscriptionId.label id), ("function", name), ("error", message)])
  | .panicked message? =>
    world.withContext
      (world.context.log .error "condition callback panicked"
        [("subscription", SubscriptionId.label id), ("function", name),
          ("panic", message?.getD Context.unreadablePanic)])

/-- A touch that is watched for is reported in the journal before anyone is notified. -/
def withTouch (world : World host) (name : String) : World host :=
  world.withContext
    (world.context.log .trace "touch"
      [("function", name), ("subscribers", toString (world.watcher.subscriberCount name))])

/-- The world in which the first of those who watch a function has its turn. -/
def announced (world : World host) (name : String) : World host :=
  if (world.watcher.subscribers name).isEmpty then world else world.withTouch name

end World

/-- Turns that lead from one world to another. -/
inductive Pass (handlers : Handlers host) (name : String) :
    World host → List (Turn host) → World host → Prop where
  | done (world : World host) : Pass handlers name world [] world
  | skip {world final : World host} {turns : List (Turn host)}
      (subscription : Subscription host.Callback)
      (gone : world.watcher.isLive subscription.id = false)
      (later : Pass handlers name world turns final) :
      Pass handlers name world (⟨subscription, world, none⟩ :: turns) final
  | start {world returned final : World host} {turns : List (Turn host)} {outcome : Outcome}
      (subscription : Subscription host.Callback)
      (live : world.watcher.isLive subscription.id = true)
      (ended : handlers.callback subscription.callback world = .ok outcome returned)
      (later :
        Pass handlers name (returned.withFailure name subscription.id outcome) turns final) :
      Pass handlers name world (⟨subscription, world, some outcome⟩ :: turns) final

/-! ## Notifying -/

section Notify

variable {handlers : Handlers host} {name : String} {world : World host}
variable {subscription : Subscription host.Callback}

theorem notify_of_gone (gone : world.watcher.isLive subscription.id = false) :
    Context.notify handlers.callback name subscription world =
      .ok (Turn.report [⟨subscription, world, none⟩]) world := by
  apply (Action.bind_of_ok (Action.look_of world)).trans
  refine (congrFun (if_neg ?_) world).trans rfl
  exact Bool.eq_false_iff.mp gone

theorem notify_of_stopped (live : world.watcher.isLive subscription.id = true)
    {stop : Stop} {later : World host}
    (stopped : handlers.callback subscription.callback world = .error stop later) :
    Context.notify handlers.callback name subscription world = .error stop later := by
  apply (Action.bind_of_ok (Action.look_of world)).trans
  apply (congrFun (if_pos live) world).trans
  exact Action.bind_of_error stopped

theorem notify_of_ended (live : world.watcher.isLive subscription.id = true)
    {outcome : Outcome} {returned : World host}
    (ended : handlers.callback subscription.callback world = .ok outcome returned) :
    Context.notify handlers.callback name subscription world =
      .ok (Turn.report [⟨subscription, world, some outcome⟩])
        (returned.withFailure name subscription.id outcome) := by
  apply (Action.bind_of_ok (Action.look_of world)).trans
  apply (congrFun (if_pos live) world).trans
  apply (Action.bind_of_ok ended).trans
  cases outcome <;> rfl

/-- Those whose turns have been taken do not matter for what the others do to the world. -/
theorem Pass.after_notifyAll {middle : World host} {turns : List (Turn host)}
    (pass : Pass handlers name world turns middle)
    (rest : List (Subscription host.Callback)) :
    (Context.notifyAll handlers.callback name (turns.map Turn.subscription ++ rest)).after world =
      (Context.notifyAll handlers.callback name rest).after middle := by
  induction pass with
  | done world => rfl
  | skip subscription gone later induction =>
      rw [List.map_cons, List.cons_append, Context.notifyAll,
        Action.after_bind_of_ok (notify_of_gone gone), Action.after_bind_pure]
      exact induction
  | start subscription live ended later induction =>
      rw [List.map_cons, List.cons_append, Context.notifyAll,
        Action.after_bind_of_ok (notify_of_ended live ended), Action.after_bind_pure]
      exact induction

/-- Notifying that ends is a pass over the subscriptions. -/
theorem exists_pass_of_notifyAll {final : World host} {report : TouchReport}
    {subscriptions : List (Subscription host.Callback)}
    (notified :
      Context.notifyAll handlers.callback name subscriptions world = .ok report final) :
    ∃ turns,
      Pass handlers name world turns final ∧
      turns.map Turn.subscription = subscriptions ∧
      report = Turn.report turns := by
  induction subscriptions generalizing world report with
  | nil =>
      cases notified
      exact ⟨[], .done final, rfl, rfl⟩
  | cons subscription rest induction =>
      rcases Action.bind_eq_ok notified with ⟨first, middle, taken, continued⟩
      rcases Action.bind_eq_ok continued with ⟨others, last, passed, ended⟩
      cases ended
      rcases induction passed with ⟨turns, pass, same, counted⟩
      cases live : world.watcher.isLive subscription.id with
      | false =>
          rw [notify_of_gone live] at taken
          cases taken
          refine ⟨_ :: turns, .skip subscription live pass, ?_, ?_⟩
          · rw [List.map_cons, same]
          · rw [counted]
            exact (Turn.report_cons _ turns).symm
      | true =>
          cases ended : handlers.callback subscription.callback world with
          | error stop later =>
              rw [notify_of_stopped live ended] at taken
              cases taken
          | ok outcome returned =>
              rw [notify_of_ended live ended] at taken
              cases taken
              refine ⟨_ :: turns, .start subscription live ended pass, ?_, ?_⟩
              · rw [List.map_cons, same]
              · rw [counted]
                exact (Turn.report_cons _ turns).symm

end Notify

/-! ## Touching -/

section Touch

variable {handlers : Handlers host} {name : String} {world : World host}

/-- Nothing happens where nobody watches. -/
theorem touch_of_unwatched (unwatched : world.watcher.subscribers name = []) :
    Context.touch handlers.callback name world = .ok .none world := by
  apply (Action.bind_of_ok (Action.look_of world)).trans
  refine (congrFun (if_pos ?_) world).trans rfl
  show (world.watcher.unloaded || (world.watcher.subscribers name).isEmpty) = true
  rw [unwatched, List.isEmpty_nil, Bool.or_true]

theorem touch_of_watched
    (loaded : world.watcher.unloaded = false)
    (watched : world.watcher.subscribers name ≠ []) :
    Context.touch handlers.callback name world =
      Context.notifyAll handlers.callback name (world.watcher.subscribers name)
        (world.withTouch name) := by
  apply (Action.bind_of_ok (Action.look_of world)).trans
  refine (congrFun (if_neg ?_) world).trans ?_
  · show ¬(world.watcher.unloaded || (world.watcher.subscribers name).isEmpty) = true
    rw [loaded, Bool.false_or, List.isEmpty_iff]
    exact watched
  · exact Action.bind_of_ok rfl

/-- A touch that ends is a pass over those who watched as it began. -/
theorem World.Faithful.exists_pass_of_touch (faithful : world.Faithful)
    {report : TouchReport} {final : World host}
    (touched : Context.touch handlers.callback name world = .ok report final) :
    ∃ turns,
      Pass handlers name (world.announced name) turns final ∧
      turns.map Turn.subscription = world.watcher.subscribers name ∧
      report = Turn.report turns := by
  rw [World.announced]
  by_cases unwatched : world.watcher.subscribers name = []
  · rw [touch_of_unwatched unwatched] at touched
    cases touched
    rw [unwatched]
    exact ⟨[], .done world, rfl, rfl⟩
  · have loaded : world.watcher.unloaded = false :=
      faithful.consistent.loaded_of_watched unwatched
    rw [touch_of_watched loaded unwatched] at touched
    rw [if_neg fun empty => unwatched (List.isEmpty_iff.mp empty)]
    exact exists_pass_of_notifyAll touched

theorem World.Faithful.exists_pass (faithful : world.Faithful)
    {report : TouchReport} {final : World host}
    (touched : Context.touch handlers.callback name world = .ok report final) :
    ∃ begun turns,
      (begun = world ∨ begun = world.withTouch name) ∧
      Pass handlers name begun turns final ∧
      turns.map Turn.subscription = world.watcher.subscribers name ∧
      report = Turn.report turns := by
  rcases faithful.exists_pass_of_touch touched with ⟨turns, taken⟩
  refine ⟨world.announced name, turns, ?_, taken⟩
  rw [World.announced]
  split
  · exact .inl rfl
  · exact .inr rfl

end Touch

/-! ## What happens in a pass -/

theorem World.withTouch_evolves (world : World host) (name : String) :
    world.Evolves (world.withTouch name) :=
  (World.Step.report world _ _ _).evolves

theorem World.withFailure_evolves
    (world : World host) (name : String) (id : SubscriptionId) (outcome : Outcome) :
    world.Evolves (world.withFailure name id outcome) := by
  cases outcome with
  | done => exact .refl world
  | failed message => exact (World.Step.report world _ _ _).evolves
  | panicked message? => exact (World.Step.report world _ _ _).evolves

/-- A callback that was started, and the report of its failure, let the world evolve. -/
theorem evolves_of_ended {handlers : Handlers host} (evolving : handlers.Evolving)
    {callback : host.Callback} {world returned : World host} {outcome : Outcome}
    (ended : handlers.callback callback world = .ok outcome returned)
    (name : String) (id : SubscriptionId) :
    world.Evolves (returned.withFailure name id outcome) := by
  have ran := evolving.callback callback world
  rw [Action.after_of_ok ended] at ran
  exact ran.trans (returned.withFailure_evolves name id outcome)

namespace Pass

variable {handlers : Handlers host} {name : String} {world final : World host}
variable {turns : List (Turn host)} (pass : Pass handlers name world turns final)
include pass

/-- The callbacks that are started are those of the subscriptions that are live at their turn. -/
theorem started_eq {turn : Turn host} (member : turn ∈ turns) :
    turn.started = turn.before.watcher.isLive turn.subscription.id := by
  induction pass with
  | done world => cases member
  | skip subscription gone later induction =>
      rcases List.mem_cons.mp member with rfl | rest
      · exact gone.symm
      · exact induction rest
  | start subscription live ended later induction =>
      rcases List.mem_cons.mp member with rfl | rest
      · exact live.symm
      · exact induction rest

variable (evolving : handlers.Evolving)
include evolving

theorem evolves : world.Evolves final := by
  induction pass with
  | done world => exact .refl world
  | skip subscription gone later induction => exact induction
  | start subscription live ended later induction =>
      exact (evolves_of_ended evolving ended name subscription.id).trans induction

/-- Every turn comes between the begin and the end of the pass. -/
theorem evolves_turn {turn : Turn host} (member : turn ∈ turns) :
    world.Evolves turn.before ∧ turn.before.Evolves final := by
  induction pass with
  | done world => cases member
  | skip subscription gone later induction =>
      rcases List.mem_cons.mp member with rfl | rest
      · exact ⟨.refl _, later.evolves evolving⟩
      · exact induction rest
  | start subscription live ended later induction =>
      have first := evolves_of_ended evolving ended name subscription.id
      rcases List.mem_cons.mp member with rfl | rest
      · exact ⟨.refl _, first.trans (later.evolves evolving)⟩
      · rcases induction rest with ⟨before, after⟩
        exact ⟨first.trans before, after⟩

end Pass

/-- Whoever is live when its turn comes is started. -/
theorem notifyAll_starts
    (program : Program host) (depth : Nat) (name : String)
    {middle : World host} {subscription : Subscription host.Callback}
    (live : middle.watcher.isLive subscription.id = true)
    (rest : List (Subscription host.Callback)) :
    (middle.record (.started subscription.callback)).Evolves
      ((Context.notifyAll (program.handlers depth).callback name (subscription :: rest)).after
        middle) := by
  have linked := program.handlers_linked World.linking_evolves depth
  have begun := program.handlers_started World.linking_evolves depth subscription.callback middle
  have notified :
      (((program.handlers depth).callback subscription.callback).after middle).Evolves
        ((Context.notify (program.handlers depth).callback name subscription).after middle) := by
    cases ended : (program.handlers depth).callback subscription.callback middle with
    | ok outcome returned =>
        rw [Action.after_of_ok ended, Action.after_of_ok (notify_of_ended live ended)]
        exact returned.withFailure_evolves name subscription.id outcome
    | error stop later =>
        rw [Action.after_of_error ended, Action.after_of_error (notify_of_stopped live ended)]
        exact .refl later
  rw [Context.notifyAll]
  refine (begun.trans notified).trans
    (Action.Linked.after_bind World.linking_evolves (fun first => ?_) _ middle)
  exact .bind World.linking_evolves (notifyAll_linked World.linking_evolves linked name rest)
    fun others => .pure World.linking_evolves _

/--
A touch that ends was a pass over those who watched the function as it began, each in turn and in
the order in which they subscribed.  Their callbacks were started exactly where they were still
live, that is, where up to their turn they had not been removed and nothing had been unloaded.
Nobody had a turn who subscribed during the pass.  The report counts the callbacks that the pass
itself started, those of them that did not end well, and the others that it skipped.
-/
theorem touch_notifies_live_subscribers
    {world : World host} (reachable : world.Reachable)
    (program : Program host) (depth : Nat) (name : String)
    {report : TouchReport} {final : World host}
    (touched : Context.touch (program.handlers depth).callback name world = .ok report final) :
    ∃ (begun : World host) (turns : List (Turn host)),
      (begun = world ∨ begun = world.withTouch name) ∧
      Pass (program.handlers depth) name begun turns final ∧
      turns.map Turn.subscription = world.watcher.subscribers name ∧
      (turns.map fun turn => turn.subscription.id).Pairwise (· < ·) ∧
      (∀ turn ∈ turns,
        turn.started = turn.before.watcher.isLive turn.subscription.id ∧
        (turn.started = true ↔
          .unsubscribed turn.subscription.id ∉ turn.before.since world ∧
          .unloaded ∉ turn.before.since world) ∧
        ∀ source callback,
          .subscribed turn.subscription.id source callback ∉ final.since world) ∧
      report.invoked = turns.countP Turn.started ∧
      report.failed = turns.countP Turn.failed ∧
      report.invoked + report.skipped = world.watcher.subscriberCount name := by
  have faithful := reachable.faithful
  rcases faithful.exists_pass touched with ⟨begun, turns, begins, pass, same, counted⟩
  have evolving := program.handlers_evolving depth
  have began : world.Evolves begun := by
    rcases begins with rfl | rfl
    · exact .refl begun
    · exact world.withTouch_evolves name
  have ids : (turns.map fun turn => turn.subscription.id) = world.watcher.idsUnder name := by
    rw [Watcher.idsUnder, ← same, List.map_map]
    rfl
  refine ⟨begun, turns, begins, pass, same, ?_, ?_, ?_, ?_, ?_⟩
  · rw [ids]
    exact faithful.consistent.ordered name
  · intro turn member
    rcases pass.evolves_turn evolving member with ⟨before, after⟩
    have listed : turn.subscription.id ∈ world.watcher.idsUnder name := by
      rw [← ids]
      exact List.mem_map_of_mem member
    have live := faithful.consistent.isLive_of_mem listed
    have started := pass.started_eq member
    refine ⟨started, ?_, ?_⟩
    · rw [started]
      exact faithful.isLive_iff_since (began.trans before) live
    · exact faithful.subscribed_not_mem_since ((began.trans before).trans after) live
  · rw [counted]
    rfl
  · rw [counted]
    rfl
  · rw [counted, Turn.report_invoked_add_skipped, Watcher.subscriberCount, ← same,
      List.length_map]

theorem touch_notifies_live_subscribers_meddled :
    (Context.touch (Errand.program.handlers 2).callback "f").result? Errand.waiting =
      some ⟨2, 1, 1⟩ ∧
    ∃ (begun final : World Errand.office) (turns : List (Turn Errand.office)),
      Pass (Errand.program.handlers 2) "f" begun turns final ∧
      (turns.map fun turn => turn.subscription.id) = [1, 2, 3] ∧
      turns.countP Turn.started = 2 ∧
      turns.countP Turn.failed = 1 := by
  have ended :
      (Context.touch (Errand.program.handlers 2).callback "f").result? Errand.waiting =
        some ⟨2, 1, 1⟩ := by
    decide +kernel
  obtain ⟨begun, turns, -, pass, same, -, -, invoked, failed, -⟩ :=
    touch_notifies_live_subscribers Errand.waiting_reachable Errand.program 2 "f"
      (Action.eq_ok_of_result? ended)
  refine ⟨ended, begun, _, turns, pass, ?_, invoked.symm, failed.symm⟩
  have ids : Errand.waiting.watcher.idsUnder "f" = [1, 2, 3] := by decide +kernel
  rw [← ids, Watcher.idsUnder, ← same, List.map_map]
  rfl

end Vigil.Hosting
