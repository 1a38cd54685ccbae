import Mathlib.Algebra.BigOperators.Group.Finset.Basic
import Mathlib.Algebra.GroupWithZero.Nat
import Vigil.Proofs.Hosting.Modesty
import Vigil.Proofs.Watch.Bindings
import Vigil.Proofs.Watch.Pass

/-!
# Deliveries

An event touches the names that it is bound to, and a tick those whose samples have changed, one
after the other.  Where callbacks are modest, none of the touches disturbs another: whoever is live
at first stays so, and each subscription is notified once for every name that it watches.  This
needs that no name is touched twice, that no subscription watches a name twice, and that it stands
under a name once; these come from the bindings, from the text and from the watcher.

What a tick finds changed is found by the poller: `Hosting.tick_polls` says that the tick of a
context is that of its poller, followed by the touches.
-/

namespace Vigil

namespace Watcher

variable {Callback : Type}

/-- Who is to be notified of what when names are touched one after the other. -/
def deliveries (watcher : Watcher Callback) (names : List String) :
    List (String × Subscription Callback) :=
  names.flatMap fun name => (watcher.subscribers name).map (Prod.mk name)

/-- How many of some names a subscription watches. -/
def timesWatched (watcher : Watcher Callback) (names : List String) (id : SubscriptionId) : Nat :=
  names.countP (· ∈ (watcher.watchedNames? id).getD [])

/-- Where nothing is unloaded, those who are subscribed are live. -/
theorem mem_keys_iff {watcher : Watcher Callback} (loaded : watcher.unloaded = false)
    {id : SubscriptionId} : id ∈ watcher.byId.keys ↔ watcher.isLive id = true := by
  rw [isLive, loaded, Bool.not_false, Bool.true_and, Table.contains, Table.get?,
    Option.isSome_map, List.find?_isSome, Table.keys, List.mem_map]
  simp only [decide_eq_true_eq]

namespace Consistent

variable {watcher : Watcher Callback} (consistent : watcher.Consistent)
include consistent

theorem count_deliveries (names : List String) (id : SubscriptionId) :
    ((watcher.deliveries names).map (·.2.id)).count id = watcher.timesWatched names id := by
  induction names with
  | nil => rfl
  | cons name rest induction =>
      have first : ((watcher.subscribers name).map (Prod.mk name)).map (·.2.id) =
          watcher.idsUnder name := List.map_map
      rw [deliveries] at induction ⊢
      rw [List.flatMap_cons, List.map_append, List.count_append, first, induction,
        consistent.count_idsUnder, timesWatched, timesWatched, List.countP_cons, Nat.add_comm]
      simp only [decide_eq_true_eq]

/-- Whoever stands under a name is subscribed. -/
theorem mem_keys_of_mem {id : SubscriptionId} {name : String}
    (member : id ∈ watcher.idsUnder name) : id ∈ watcher.byId.keys := by
  rcases (consistent.listed_iff id name).mp member with ⟨names, watched, -⟩
  exact List.mem_map.mpr ⟨_, Table.mem_entries_of_get? watched, rfl⟩

/-- All deliveries together are those of every subscription. -/
theorem length_deliveries (names : List String) :
    (watcher.deliveries names).length =
      (watcher.byId.keys.map (watcher.timesWatched names)).sum := by
  let ids := (watcher.deliveries names).map (·.2.id)
  have subscribed : ∀ id ∈ (ids : Multiset SubscriptionId), id ∈ watcher.byId.keys.toFinset := by
    intro id member
    rcases List.mem_map.mp (Multiset.mem_coe.mp member) with ⟨delivery, delivered, rfl⟩
    rcases List.mem_flatMap.mp delivered with ⟨name, -, listed⟩
    rcases List.mem_map.mp listed with ⟨subscription, under, rfl⟩
    exact List.mem_toFinset.mpr (consistent.mem_keys_of_mem (List.mem_map_of_mem under))
  calc (watcher.deliveries names).length
    _ = Multiset.card (ids : Multiset SubscriptionId) := (List.length_map _).symm
    _ = ∑ id ∈ watcher.byId.keys.toFinset, (ids : Multiset SubscriptionId).count id :=
      (Multiset.sum_count_eq_card subscribed).symm
    _ = ∑ id ∈ watcher.byId.keys.toFinset, ids.count id := by simp only [Multiset.coe_count]
    _ = (watcher.byId.keys.map ids.count).sum := List.sum_toFinset _ watcher.byId.distinct
    _ = (watcher.byId.keys.map (watcher.timesWatched names)).sum := by
      rw [funext (consistent.count_deliveries names)]

end Consistent

end Watcher

namespace Hosting

variable {host : Host}

/-! ## Passes one after the other -/

/-- Passes for some names, one after the other, each over those who watch the name as it begins. -/
inductive Round (handlers : Handlers host) :
    List String → World host → List (String × Turn host) → World host → Prop where
  | done (world : World host) : Round handlers [] world [] world
  | touch {name : String} {names : List String} {world begun middle final : World host}
      {turns : List (Turn host)} {others : List (String × Turn host)}
      (begins : begun = world ∨ begun = world.withTouch name)
      (listed : turns.map Turn.subscription = world.watcher.subscribers name)
      (pass : Pass handlers name begun turns middle)
      (later : Round handlers names middle others final) :
      Round handlers (name :: names) world (turns.map (Prod.mk name) ++ others) final

theorem Turn.report_append (first second : List (Turn host)) :
    report (first ++ second) = report first + report second := by
  show report (first ++ second) = TouchReport.add (report first) (report second)
  simp only [report, TouchReport.add, List.countP_append]

/-- What is reported of a failure is not on record. -/
theorem World.watcher_withFailure (world : World host) (name : String) (id : SubscriptionId)
    (outcome : Outcome) : (world.withFailure name id outcome).watcher = world.watcher := by
  cases outcome <;> rfl

theorem World.starts_withFailure (world : World host) (name : String) (id : SubscriptionId)
    (outcome : Outcome) : (world.withFailure name id outcome).starts = world.starts := by
  cases outcome <;> rfl

section Rounds

variable {handlers : Handlers host} (evolving : handlers.Evolving)
variable {names : List String} {world final : World host}
include evolving

/-- Touching names that ends is a round. -/
theorem exists_round_of_touchAll (faithful : world.Faithful) {report : TouchReport}
    (touched : Context.touchAll handlers.callback names world = .ok report final) :
    ∃ turns, Round handlers names world turns final ∧
      report = Turn.report (turns.map Prod.snd) := by
  induction names generalizing world report with
  | nil =>
      cases touched
      exact ⟨[], .done final, rfl⟩
  | cons name rest induction =>
      rcases Action.bind_eq_ok touched with ⟨first, middle, ended, continued⟩
      rcases Action.bind_eq_ok continued with ⟨others, last, followed, finished⟩
      cases finished
      rcases faithful.exists_pass ended with ⟨begun, turns, begins, pass, listed, rfl⟩
      have began : world.Evolves begun := by
        rcases begins with rfl | rfl
        · exact .refl begun
        · exact world.withTouch_evolves name
      have faithfulThen := faithful.evolves (began.trans (pass.evolves evolving))
      rcases induction faithfulThen followed with ⟨later, round, rfl⟩
      refine ⟨_, .touch begins listed pass round, ?_⟩
      rw [List.map_append, Turn.report_append, List.map_map]
      show Turn.report turns + _ = Turn.report (turns.map id) + _
      rw [List.map_id]

variable (modest : handlers.Modest)
include modest

/-- In a pass over those who are live, modest callbacks keep them so, and all are started. -/
theorem Pass.undisturbed {name : String} {turns : List (Turn host)}
    (pass : Pass handlers name world turns final)
    (live : ∀ turn ∈ turns, world.watcher.isLive turn.subscription.id = true) :
    (∀ turn ∈ turns, turn.started = true) ∧
      final.watcher = world.watcher ∧
      final.starts = world.starts ++ turns.map fun turn => turn.subscription.callback := by
  induction pass with
  | done world => exact ⟨nofun, rfl, (List.append_nil _).symm⟩
  | skip subscription gone later induction =>
      rw [live _ List.mem_cons_self] at gone
      cases gone
  | @start world returned final turns outcome subscription _ ended later induction =>
      have watcher := (returned.watcher_withFailure name subscription.id outcome).trans
        (modest.watcher_eq ended evolving)
      have starts := (returned.starts_withFailure name subscription.id outcome).trans
        (modest.starts ended)
      rw [watcher, starts] at induction
      rcases induction fun turn member => live turn (List.mem_cons_of_mem _ member) with
        ⟨started, kept, recorded⟩
      refine ⟨?_, kept, ?_⟩
      · intro turn member
        rcases List.mem_cons.mp member with rfl | rest
        · rfl
        · exact started turn rest
      · rw [recorded, List.append_assoc]
        rfl

/-- What a round comes to that nothing disturbs. -/
structure Delivered (handlers : Handlers host) (names : List String) (world : World host)
    (turns : List (String × Turn host)) (final : World host) : Prop where
  round : Round handlers names world turns final
  /-- Names come in their order, and those who watch a name in the order they subscribed in. -/
  ordered : (turns.map fun (name, turn) => (name, turn.subscription)) =
    world.watcher.deliveries names
  started : ∀ delivery ∈ turns, delivery.2.started = true
  starts : final.starts = world.starts ++ turns.map fun (_, turn) => turn.subscription.callback
  watcher : final.watcher = world.watcher

omit evolving modest in
theorem Delivered.count_eq {turns : List (String × Turn host)}
    (delivered : Delivered handlers names world turns final)
    (consistent : world.watcher.Consistent) (id : SubscriptionId) :
    (turns.map fun (_, turn) => turn.subscription.id).count id =
      world.watcher.timesWatched names id := by
  rw [← consistent.count_deliveries, ← delivered.ordered, List.map_map]
  rfl

omit evolving modest in
/-- Every delivery is counted as one, and nobody is skipped. -/
theorem Delivered.report_eq {turns : List (String × Turn host)}
    (delivered : Delivered handlers names world turns final)
    (consistent : world.watcher.Consistent) :
    (Turn.report (turns.map Prod.snd)).invoked =
        (world.watcher.byId.keys.map (world.watcher.timesWatched names)).sum ∧
      (Turn.report (turns.map Prod.snd)).skipped = 0 := by
  have all : ∀ turn ∈ turns.map Prod.snd, turn.started = true := by
    intro turn member
    rcases List.mem_map.mp member with ⟨delivery, delivered', rfl⟩
    exact delivered.started delivery delivered'
  constructor
  · rw [← consistent.length_deliveries, ← delivered.ordered, List.length_map,
      ← List.length_map (Prod.snd : String × Turn host → Turn host)]
    exact List.countP_eq_length.mpr all
  · refine List.countP_eq_zero.mpr fun turn member => ?_
    simp [all turn member]

theorem Round.delivered {turns : List (String × Turn host)}
    (round : Round handlers names world turns final) (consistent : world.watcher.Consistent) :
    Delivered handlers names world turns final := by
  induction round with
  | done world => exact ⟨.done world, rfl, nofun, (List.append_nil _).symm, rfl⟩
  | @touch name names world begun middle final turns others begins listed pass later induction =>
      have begunWatcher : begun.watcher = world.watcher := by rcases begins with rfl | rfl <;> rfl
      have begunStarts : begun.starts = world.starts := by rcases begins with rfl | rfl <;> rfl
      have live : ∀ turn ∈ turns, begun.watcher.isLive turn.subscription.id = true := by
        intro turn member
        have under : turn.subscription ∈ world.watcher.subscribers name := by
          rw [← listed]
          exact List.mem_map_of_mem member
        rw [begunWatcher]
        exact consistent.isLive_of_mem (List.mem_map_of_mem under)
      rcases pass.undisturbed evolving modest live with ⟨started, watcher, starts⟩
      rw [begunWatcher] at watcher
      rw [begunStarts] at starts
      have rest := induction (watcher ▸ consistent)
      refine ⟨.touch begins listed pass later, ?_, ?_, ?_, rest.watcher.trans watcher⟩
      · rw [List.map_append, rest.ordered, watcher, Watcher.deliveries, Watcher.deliveries,
          List.flatMap_cons, ← listed, List.map_map, List.map_map]
        rfl
      · intro delivery member
        rcases List.mem_append.mp member with first | others
        · rcases List.mem_map.mp first with ⟨turn, taken, rfl⟩
          exact started turn taken
        · exact rest.started delivery others
      · rw [rest.starts, starts, List.append_assoc, List.map_append, List.map_map]
        rfl

end Rounds

/-! ## Events and ticks that end -/

section Ends

variable {handlers : Handlers host}
variable (callbacks : ∀ callback world, ∃ outcome returned,
  handlers.callback callback world = .ok outcome returned)
include callbacks

theorem notifyAll_ends (name : String) (subscriptions : List (Subscription host.Callback))
    (world : World host) :
    ∃ report final,
      Context.notifyAll handlers.callback name subscriptions world = .ok report final := by
  induction subscriptions generalizing world with
  | nil => exact ⟨_, _, rfl⟩
  | cons subscription rest induction =>
      have first : ∃ report middle,
          Context.notify handlers.callback name subscription world = .ok report middle := by
        cases live : world.watcher.isLive subscription.id with
        | false => exact ⟨_, _, notify_of_gone live⟩
        | true =>
            rcases callbacks subscription.callback world with ⟨outcome, returned, ended⟩
            exact ⟨_, _, notify_of_ended live ended⟩
      rcases first with ⟨report, middle, notified⟩
      rcases induction middle with ⟨others, final, followed⟩
      exact ⟨_, _, (Action.bind_of_ok notified).trans (Action.bind_of_ok followed)⟩

theorem touch_ends (name : String) (world : World host) :
    ∃ report final, Context.touch handlers.callback name world = .ok report final := by
  let subscribers := world.watcher.subscribers name
  by_cases unwatched : (world.watcher.unloaded || subscribers.isEmpty) = true
  · refine ⟨.none, world, (Action.bind_of_ok (Action.look_of world)).trans ?_⟩
    exact congrFun (if_pos unwatched) world
  · rcases notifyAll_ends callbacks name subscribers (world.withTouch name) with
      ⟨report, final, notified⟩
    refine ⟨report, final, (Action.bind_of_ok (Action.look_of world)).trans ?_⟩
    refine (congrFun (if_neg unwatched) world).trans ?_
    exact (Action.bind_of_ok rfl).trans notified

theorem touchAll_ends (names : List String) (world : World host) :
    ∃ report final, Context.touchAll handlers.callback names world = .ok report final := by
  induction names generalizing world with
  | nil => exact ⟨_, _, rfl⟩
  | cons name rest induction =>
      rcases touch_ends callbacks name world with ⟨first, middle, touched⟩
      rcases induction middle with ⟨others, final, followed⟩
      exact ⟨_, _, (Action.bind_of_ok touched).trans (Action.bind_of_ok followed)⟩

end Ends

/-! ## Events -/

/-- An event that is bound is reported in the journal before anyone is notified. -/
def World.withFiring (world : World host) (event : String) (names : List String) : World host :=
  world.withContext
    (world.context.log .debug "firing event"
      [("event", event), ("touches", Text.quotedList names)])

section Events

variable {handlers : Handlers host} {world : World host} {event : String}

theorem fireEvent_of_bound {names : List String}
    (bound : world.context.events.touches? event = some names) :
    Context.fireEvent handlers.callback event world =
      Context.touchAll handlers.callback names (world.withFiring event names) := by
  refine (Action.bind_of_ok (Action.look_of world)).trans ?_
  rw [bound]
  exact Action.bind_of_ok rfl

theorem fireEvent_of_unbound (unbound : world.context.events.touches? event = none) :
    Context.fireEvent handlers.callback event world =
      .ok .none (world.withContext
        (world.context.log .debug "event has no bindings" [("event", event)])) := by
  refine (Action.bind_of_ok (Action.look_of world)).trans ?_
  rw [unbound]
  rfl

end Events

/-! ## Ticks -/

section Ticks

variable {handlers : Handlers host} {world final : World host}

theorem names_of_sampleAll {probes : List (Probe host.Probe)} {samples : List (String × Value)}
    (sampled : Context.sampleAll handlers.probe probes world = .ok samples final) :
    samples.map Prod.fst = probes.map Probe.name := by
  induction probes generalizing world samples with
  | nil =>
      cases sampled
      rfl
  | cons probe rest induction =>
      rcases Action.bind_eq_ok sampled with ⟨sample, middle, -, continued⟩
      rcases Action.bind_eq_ok continued with ⟨others, last, followed, ended⟩
      cases ended
      rw [List.map_cons, List.map_cons, induction followed]

theorem sampleAll_keepsRecord (quiet : ∀ code, (handlers.probe code).KeepsRecord)
    (probes : List (Probe host.Probe)) :
    Action.KeepsRecord (Context.sampleAll handlers.probe probes) := by
  induction probes with
  | nil => exact .pure _
  | cons probe rest induction =>
      exact .bind (quiet probe.code) fun sample => .bind induction fun others => .pure _

/-- A tick that ends has sampled the probes, and then touches what it has found changed. -/
theorem tick_eq_ok {changed : List String}
    (ticked : Context.tick handlers.probe handlers.callback world = .ok changed final) :
    ∃ samples sampled report,
      Context.sampleAll handlers.probe world.context.poller.probes world = .ok samples sampled ∧
        (sampled.context.observeAll samples).1 = changed ∧
        Context.touchAll handlers.callback changed
          (sampled.withContext (sampled.context.observeAll samples).2) = .ok report final := by
  rcases Action.bind_eq_ok ticked with ⟨context, begun, looked, continued⟩
  cases looked
  rcases Action.bind_eq_ok continued with ⟨samples, sampled, found, continued⟩
  rcases Action.bind_eq_ok continued with ⟨names, observed, compared, continued⟩
  cases compared
  rcases Action.bind_eq_ok continued with ⟨report, last, touched, ended⟩
  cases ended
  exact ⟨samples, sampled, report, found, rfl, touched⟩

/-- Probes answer with samples, and they leave the poller alone but where a sample clears it. -/
def Handlers.Samples (handlers : Handlers host) (sample : host.Probe → Poller.Sample) : Prop :=
  ∀ code world, ∃ later,
    handlers.probe code world = .ok (sample code).value later ∧
      later.context.poller =
        if (sample code).clears then world.context.poller.clear else world.context.poller

theorem sampleAll_samples {sample : host.Probe → Poller.Sample} (samples : handlers.Samples sample)
    (probes : List (Probe host.Probe)) (world : World host) :
    ∃ sampled,
      Context.sampleAll handlers.probe probes world =
          .ok (probes.map fun probe => (probe.name, (sample probe.code).value)) sampled ∧
        sampled.context.poller =
          if probes.any fun probe => (sample probe.code).clears then world.context.poller.clear
          else world.context.poller := by
  induction probes generalizing world with
  | nil => exact ⟨world, rfl, rfl⟩
  | cons probe rest induction =>
      rcases samples probe.code world with ⟨middle, found, first⟩
      rcases induction middle with ⟨sampled, followed, others⟩
      refine ⟨sampled, (Action.bind_of_ok found).trans (Action.bind_of_ok followed), ?_⟩
      rw [others, first, List.any_cons]
      cases (sample probe.code).clears <;>
        cases rest.any fun probe => (sample probe.code).clears <;> rfl

/--
A tick of a context is one of its poller: it touches what the poller finds changed, and at first it
leaves the poller as that does.
-/
theorem tick_polls {sample : host.Probe → Poller.Sample} (samples : handlers.Samples sample)
    {changed : List String}
    (ticked : Context.tick handlers.probe handlers.callback world = .ok changed final) :
    changed = (world.context.poller.tick sample).1 ∧
      ∃ observed report,
        observed.context.poller = (world.context.poller.tick sample).2 ∧
          Context.touchAll handlers.callback changed observed = .ok report final := by
  rcases tick_eq_ok ticked with ⟨taken, sampled, report, found, compared, touched⟩
  rcases sampleAll_samples samples world.context.poller.probes world with ⟨_, found', left⟩
  rw [found'] at found
  cases found
  let taken := world.context.poller.probes.map fun probe => (probe.name, (sample probe.code).value)
  have polled : world.context.poller.tick sample =
      ((sampled.context.poller.observeAll taken).1.map Prod.fst,
        (sampled.context.poller.observeAll taken).2) := by
    rw [left, Poller.tick]
    simp only [List.any_map, List.map_map]
    rfl
  rw [polled]
  exact ⟨compared.symm, _, report, poller_observeAll sampled.context taken, touched⟩

/-- Code of a probe that answers with a sample; it unloads the context where this clears the probes. -/
def Procedure.ofSample (sample : Poller.Sample) : Procedure host Value :=
  if sample.clears then .ask .unload fun _ => .done sample.value else .done sample.value

/-- Whatever is to be sampled, there is code that does it. -/
theorem Program.samples {program : Program host} {sample : host.Probe → Poller.Sample}
    (sampling : ∀ code, program.probe code = .ofSample (sample code)) (depth : Nat) :
    (program.handlers (depth + 1)).Samples sample := by
  intro code world
  have run : (program.handlers (depth + 1)).probe code =
      (Procedure.ofSample (sample code)).run (program.handlers depth) :=
    congrArg (Procedure.run (program.handlers depth)) (sampling code)
  rw [run, Procedure.ofSample]
  split
  · exact ⟨world.unload, rfl, rfl⟩
  · exact ⟨world, rfl, rfl⟩

theorem tick_ends
    (callbacks : ∀ callback world, ∃ outcome returned,
      handlers.callback callback world = .ok outcome returned)
    (probes : ∀ code world, ∃ sample later, handlers.probe code world = .ok sample later)
    (world : World host) :
    ∃ changed final,
      Context.tick handlers.probe handlers.callback world = .ok changed final := by
  have sampling (items : List (Probe host.Probe)) (world : World host) :
      ∃ samples sampled, Context.sampleAll handlers.probe items world = .ok samples sampled := by
    induction items generalizing world with
    | nil => exact ⟨_, _, rfl⟩
    | cons item rest induction =>
        rcases probes item.code world with ⟨sample, middle, found⟩
        rcases induction middle with ⟨others, sampled, followed⟩
        exact ⟨_, _, (Action.bind_of_ok found).trans (Action.bind_of_ok followed)⟩
  rcases sampling world.context.poller.probes world with ⟨samples, sampled, found⟩
  let observed := sampled.context.observeAll samples
  rcases touchAll_ends callbacks observed.1 (sampled.withContext observed.2) with
    ⟨report, final, touched⟩
  refine ⟨observed.1, final, (Action.bind_of_ok (Action.look_of world)).trans ?_⟩
  refine (Action.bind_of_ok found).trans ((Action.bind_of_ok rfl).trans ?_)
  exact (Action.bind_of_ok touched).trans rfl

end Ticks

/-! ## The theorem -/

/-- What has been found in samples is on record no more than the sampling is. -/
theorem World.observed_evolves {world : World host} {handlers : Handlers host}
    (evolving : handlers.Evolving) {probes : List (Probe host.Probe)}
    {samples : List (String × Value)} {sampled : World host}
    (found : Context.sampleAll handlers.probe probes world = .ok samples sampled) :
    world.Evolves (sampled.withContext (sampled.context.observeAll samples).2) := by
  have evolves := sampleAll_linked World.linking_evolves evolving.linked probes world
  rw [Action.after_of_ok found] at evolves
  exact evolves.trans (World.Step.observe sampled samples).evolves

/--
Take any world that operations have led to since its creation, unless it has been unloaded, and
callbacks that are modest.  An event touches the names that it was ever bound to, each once and in
the order in which they came first, and notifies of each name those who watch it, in the order in
which they subscribed.  So it starts the callback of a live subscription as often as the
subscription watches one of these names; the report counts all of that, and nobody is skipped.  An
event that was never bound starts nobody.  A tick does the same with the names of the probes that it
has found changed, which are distinct.  Events and ticks end if callbacks and probes do.
-/
theorem changes_are_delivered_once_per_name
    {configured : List EventSetting} {start : World host} (created : start.Created configured)
    (operations : List (Operation host))
    (loaded : (start.afterAll operations).watcher.unloaded = false)
    (program : Program host) (depth : Nat) (modest : (program.handlers depth).Modest) :
    let world := start.afterAll operations
    let handlers := program.handlers depth
    let bindings := configured ++ operations.filterMap Operation.binding?
    (∀ id, id ∈ world.watcher.byId.keys ↔ world.watcher.isLive id = true) ∧
    (∀ name, (world.watcher.idsUnder name).Pairwise (· < ·)) ∧
    (∀ event ∈ bindings.map EventSetting.name,
      let names := (EventBindings.boundTo event bindings).eraseDups
      ∀ report final, Context.fireEvent handlers.callback event world = .ok report final →
        ∃ turns,
          Delivered handlers names (world.withFiring event names) turns final ∧
          (∀ id, (turns.map fun (_, turn) => turn.subscription.id).count id =
            world.watcher.timesWatched names id) ∧
          report.invoked = (world.watcher.byId.keys.map (world.watcher.timesWatched names)).sum ∧
          report.skipped = 0) ∧
    (∀ event ∉ bindings.map EventSetting.name, ∃ final,
      Context.fireEvent handlers.callback event world = .ok .none final ∧
        final.events = world.events) ∧
    (∀ changed final, Context.tick handlers.probe handlers.callback world = .ok changed final →
      changed.Sublist world.context.poller.names ∧ changed.Nodup ∧
      ∃ sampled turns,
        world.Evolves sampled ∧
        Delivered handlers changed sampled turns final ∧
        (∀ id, (turns.map fun (_, turn) => turn.subscription.id).count id =
          sampled.watcher.timesWatched changed id) ∧
        ((∀ code, (handlers.probe code).KeepsRecord) →
          sampled.watcher = world.watcher ∧ sampled.starts = world.starts)) ∧
    ((∀ callback world, ∃ outcome returned,
        handlers.callback callback world = .ok outcome returned) →
      (∀ event, ∃ report final,
        Context.fireEvent handlers.callback event world = .ok report final) ∧
      ((∀ code world, ∃ sample later, handlers.probe code world = .ok sample later) →
        ∃ changed final,
          Context.tick handlers.probe handlers.callback world = .ok changed final)) := by
  intro world handlers bindings
  have faithful : world.Faithful := (created.reachable operations).faithful
  have consistent := faithful.consistent
  have evolving := program.handlers_evolving depth
  have bound : ∀ event, world.context.events.touches? event =
      if event ∈ bindings.map EventSetting.name then
        some (EventBindings.boundTo event bindings).eraseDups
      else none := by
    intro event
    rw [← EventBindings.touches?_bindAll, ← created.bound_eq loaded]
  refine ⟨?_, consistent.ordered, ?_, ?_, ?_, ?_⟩
  · intro id
    exact Watcher.mem_keys_iff loaded
  · intro event member names report final fired
    have touches := bound event
    rw [if_pos member] at touches
    rw [fireEvent_of_bound touches] at fired
    have faithfulThen : (world.withFiring event names).Faithful :=
      faithful.evolves (World.Step.report world _ _ _).evolves
    rcases exists_round_of_touchAll evolving faithfulThen fired with ⟨turns, round, rfl⟩
    have delivered := round.delivered evolving modest faithfulThen.consistent
    have counted := delivered.report_eq faithfulThen.consistent
    exact ⟨turns, delivered, delivered.count_eq consistent, counted.1, counted.2⟩
  · intro event unbound
    have touches := bound event
    rw [if_neg unbound] at touches
    exact ⟨_, fireEvent_of_unbound touches, rfl⟩
  · intro changed final ticked
    rcases tick_eq_ok ticked with ⟨samples, sampled, report, found, rfl, touched⟩
    let observed := sampled.withContext (sampled.context.observeAll samples).2
    have evolves : world.Evolves observed := World.observed_evolves evolving found
    have faithfulThen := faithful.evolves evolves
    have sublist : (sampled.context.observeAll samples).1.Sublist world.context.poller.names := by
      have names := names_of_sampleAll found
      rw [Poller.names, ← names]
      exact (Poller.changes_sublist samples).map Prod.fst
    rcases exists_round_of_touchAll evolving faithfulThen touched with ⟨turns, round, -⟩
    have delivered := round.delivered evolving modest faithfulThen.consistent
    refine ⟨sublist, (created.nodup_probes operations).sublist sublist, observed, turns, evolves,
      delivered, delivered.count_eq faithfulThen.consistent, fun quiet => ?_⟩
    have kept := sampleAll_keepsRecord quiet world.context.poller.probes world
    rw [Action.after_of_ok found] at kept
    have record : observed.events = world.events := kept
    constructor
    · refine evolves.watcher_eq ?_
      rw [World.dealings, record]
      rfl
    · rw [World.starts, record]
      rfl
  · intro callbacks
    refine ⟨fun event => ?_, fun probes => tick_ends callbacks probes world⟩
    by_cases member : event ∈ bindings.map EventSetting.name
    · have touches := bound event
      rw [if_pos member] at touches
      rw [fireEvent_of_bound touches]
      exact touchAll_ends callbacks _ _
    · have touches := bound event
      rw [if_neg member] at touches
      exact ⟨_, _, fireEvent_of_unbound touches⟩

/-- A host with errands for callbacks, and with something to sample. -/
abbrev Errand.tower : Host where
  Sensor := Empty
  Callback := Errand
  Probe := Unit
  Data := Unit

/-- Here everybody comes back at once. -/
def Errand.ringing : Program tower where
  sensor := nofun
  callback
    | .fail => .done (.error "failed")
    | _ => .done (.ok ())
  probe := fun _ => .done (.boolean true)

theorem Errand.ringing_modest : ringing.Modest where
  sensor := nofun
  callback := by
    intro errand
    cases errand <;> exact .done _

/-- The bell is bound when the tower is built. -/
def Errand.bells : List EventSetting :=
  [⟨"bell", ["f", "g", "f"]⟩]

/-- A world with a bell and without subscriptions. -/
def Errand.built : World tower where
  context := .new Context.defaultCapacity (.bindAll .empty bells) .empty ()
  events := []

theorem Errand.built_created : built.Created bells :=
  ⟨⟨rfl, rfl⟩, rfl, rfl⟩

/-- Two subscriptions are made, and the bell is bound again. -/
def Errand.movingIn : List (Operation tower) :=
  [.subscribe "f() + g()" .fail, .subscribe "g()" .rest, .bindEvent "bell" ["g", "h"],
    .addProbe "g" ()]

theorem changes_are_delivered_once_per_name_bell :
    let world := Errand.built.afterAll Errand.movingIn
    let handlers := Errand.ringing.handlers 1
    world.watcher.unloaded = false ∧
      (Context.fireEvent handlers.callback "bell").result? world = some ⟨3, 2, 0⟩ ∧
      (Context.tick handlers.probe handlers.callback).result? world = some ["g"] ∧
      ∃ turns final,
        Delivered handlers ["f", "g", "h"] (world.withFiring "bell" ["f", "g", "h"]) turns final ∧
        (turns.map fun (_, turn) => turn.subscription.id).count 1 = 2 ∧
        (turns.map fun (_, turn) => turn.subscription.id).count 2 = 1 := by
  intro world handlers
  have loaded : world.watcher.unloaded = false := by decide +kernel
  have fired : (Context.fireEvent handlers.callback "bell").result? world = some ⟨3, 2, 0⟩ := by
    decide +kernel
  have ticked : (Context.tick handlers.probe handlers.callback).result? world = some ["g"] := by
    decide +kernel
  have delivers := changes_are_delivered_once_per_name Errand.built_created Errand.movingIn loaded
    Errand.ringing 1 (Errand.ringing_modest.handlers 1)
  rcases delivers with ⟨-, -, events, -⟩
  have names : (EventBindings.boundTo "bell"
      (Errand.bells ++ Errand.movingIn.filterMap Operation.binding?)).eraseDups =
        ["f", "g", "h"] := by
    decide +kernel
  have rung := events "bell" (by decide) _ _ (Action.eq_ok_of_result? fired)
  rw [names] at rung
  rcases rung with ⟨turns, delivered, counted, -⟩
  refine ⟨loaded, fired, ticked, turns, _, delivered, ?_, ?_⟩
  · rw [counted]
    decide +kernel
  · rw [counted]
    decide +kernel

end Hosting

end Vigil
