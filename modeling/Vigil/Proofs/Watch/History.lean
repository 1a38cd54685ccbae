import Vigil.Proofs.Hosting.Evolution
import Vigil.Proofs.Watch.Subscription

/-!
# The history of a watcher

Of all operations on a world only four touch its watcher or are on record there: a subscription is
given a number, a subscription is found and removed, and everything is unloaded; the rest leaves
the watcher alone.  `World.Step.dealing` says so once and for all.

`World.Faithful` ties the watcher to the record: its indices are consistent, numbers were handed out
in ascending order, and a subscription is live exactly if it was made, not removed since, and
nothing was unloaded.  Every operation keeps this, so it holds of every reachable world.
-/

namespace Vigil.Hosting

variable {host : Host}

/-! ## Dealings with the watcher -/

/-- Whether an event is one of the watcher, and not of a callback. -/
def Event.isDealing : Event host → Bool
  | .subscribed .. => true
  | .unsubscribed _ => true
  | .unloaded => true
  | .started _ => false
  | .ended .. => false

/-- The number that an event hands out. -/
def Event.handedOut? : Event host → Option SubscriptionId
  | .subscribed id _ _ => some id
  | _ => none

namespace World

/-- The events of the watcher, oldest first. -/
def dealings (world : World host) : List (Event host) :=
  world.events.filter Event.isDealing

/-- The numbers handed out, oldest first. -/
def handedOut (world : World host) : List SubscriptionId :=
  world.events.filterMap Event.handedOut?

theorem mem_dealings {world : World host} {event : Event host} :
    event ∈ world.dealings ↔ event ∈ world.events ∧ event.isDealing = true :=
  List.mem_filter

theorem handedOut_eq (world : World host) :
    world.handedOut = world.dealings.filterMap Event.handedOut? := by
  rw [handedOut, dealings, List.filterMap_filter]
  congr 1
  ext event
  cases event <;> rfl

theorem mem_handedOut {world : World host} {id : SubscriptionId} :
    id ∈ world.handedOut ↔ ∃ source callback, .subscribed id source callback ∈ world.dealings := by
  rw [handedOut_eq, List.mem_filterMap]
  constructor
  · rintro ⟨event, member, handed⟩
    cases event with
    | subscribed other source callback =>
        cases handed
        exact ⟨source, callback, member⟩
    | _ => cases handed
  · rintro ⟨source, callback, member⟩
    exact ⟨_, member, rfl⟩

@[simp]
theorem dealings_record (world : World host) (event : Event host) :
    (world.record event).dealings =
      world.dealings ++ if event.isDealing then [event] else [] := by
  rw [dealings, record, List.filter_append, dealings]
  cases dealing : event.isDealing <;> simp [dealing]

/-- What an operation on a world means for its watcher. -/
inductive Dealing (before after : World host) : Prop where
  | none
      (watcher : after.watcher = before.watcher)
      (dealings : after.dealings = before.dealings)
  | subscribed (source : String) (names : List String) (callback : host.Callback)
      (found : Token.namesIn source = .ok names)
      (watcher : after.watcher = (before.watcher.subscribe names callback).2)
      (dealings : after.dealings =
        before.dealings ++ [.subscribed before.watcher.nextId source callback])
  | unsubscribed (id : SubscriptionId) (names : List String)
      (known : before.watcher.watchedNames? id = some names)
      (watcher : after.watcher = (before.watcher.unsubscribe id).2)
      (dealings : after.dealings = before.dealings ++ [.unsubscribed id])
  | unloaded
      (watcher : after.watcher = before.watcher.unload)
      (dealings : after.dealings = before.dealings ++ [.unloaded])

end World

/-! ## Operations that leave the watcher alone -/

section Frame

variable (context : Context host)

theorem watcher_register (name : String) (arity : Nat) (code : host.Sensor) :
    (context.register name arity code).2.watcher = context.watcher := by
  rw [Context.register]
  split <;> rfl

theorem watcher_parse (source : String) : (context.parse source).2.watcher = context.watcher :=
  rfl

theorem watcher_bindEvent (event : String) (names : List String) :
    (context.bindEvent event names).watcher = context.watcher := by
  rw [Context.bindEvent]
  split <;> rfl

theorem watcher_addProbe (sensor : String) (code : host.Probe) :
    (context.addProbe sensor code).2.watcher = context.watcher := by
  rw [Context.addProbe]
  split
  · rfl
  · split <;> rfl

theorem view_foldl {View Item : Type} {view : Context host → View}
    {step : Context host → Item → Context host}
    (keeps : ∀ context item, view (step context item) = view context)
    (items : List Item) : view (items.foldl step context) = view context := by
  induction items generalizing context with
  | nil => rfl
  | cons item rest induction => rw [List.foldl_cons, induction, keeps]

/-- What changes with neither the poller nor the journal does not change with observations. -/
theorem view_observeAll {View : Type} {view : Context host → View}
    (polled : ∀ (context : Context host) poller, view { context with poller } = view context)
    (logged : ∀ (context : Context host) level message fields,
      view (context.log level message fields) = view context)
    (samples : List (String × Value)) :
    view (context.observeAll samples).2 = view context := by
  rw [Context.observeAll]
  exact (view_foldl _ (fun _ _ => logged _ _ _ _) _).trans (polled _ _)

/-- The poller is left as its own observations leave it. -/
theorem poller_observeAll (samples : List (String × Value)) :
    (context.observeAll samples).2.poller = (context.poller.observeAll samples).2 :=
  let observed := (context.poller.observeAll samples).2
  List.foldlRecOn (motive := fun later : Context host => later.poller = observed) _ _ rfl
    fun _ told _ _ => told

theorem watcher_observeAll (samples : List (String × Value)) :
    (context.observeAll samples).2.watcher = context.watcher :=
  view_observeAll context (fun _ _ => rfl) (fun _ _ _ _ => rfl) samples

end Frame

theorem World.dealing_of_context {before : World host} {context : Context host}
    (same : context.watcher = before.context.watcher) :
    before.Dealing (before.withContext context) :=
  .none same rfl

/-- Subscribing fails and changes nothing, or hands out the next number. -/
theorem World.subscribe_cases
    (world : World host) (source : String) (callback : host.Callback) :
    (∃ error, world.subscribe source callback = (.error error, world)) ∨
    ∃ names journal,
      Token.namesIn source = .ok names ∧
        world.subscribe source callback =
          (.ok world.watcher.nextId,
            (world.withContext
              { world.context with
                watcher := (world.watcher.subscribe names callback).2
                journal }).record (.subscribed world.watcher.nextId source callback)) := by
  rw [World.subscribe]
  cases found : Token.namesIn source with
  | error error =>
      left
      rw [Context.subscribe_of_error found]
      exact ⟨error, rfl⟩
  | ok names =>
      right
      rcases Context.subscribe_of_ok found world.context callback with ⟨journal, subscribed⟩
      rw [subscribed]
      exact ⟨names, journal, rfl, rfl⟩

/-- Unsubscribing changes nothing, or removes what was subscribed. -/
theorem World.unsubscribe_cases (world : World host) (id : SubscriptionId) :
    world.unsubscribe id = (false, world) ∨
    ∃ names journal,
      world.watcher.watchedNames? id = some names ∧
        world.unsubscribe id =
          (true,
            (world.withContext
              { world.context with
                watcher := (world.watcher.unsubscribe id).2
                journal }).record (.unsubscribed id)) := by
  rw [World.unsubscribe]
  cases known : world.watcher.watchedNames? id with
  | none =>
      left
      rw [Context.unsubscribe_of_unknown known]
      rfl
  | some names =>
      right
      rcases Context.unsubscribe_of_known known with ⟨journal, unsubscribed⟩
      rw [unsubscribed]
      exact ⟨names, journal, rfl, rfl⟩

theorem World.dealing_subscribe
    (world : World host) (source : String) (callback : host.Callback) :
    world.Dealing (world.subscribe source callback).2 := by
  rcases world.subscribe_cases source callback with
    ⟨error, failed⟩ | ⟨names, journal, found, subscribed⟩
  · rw [failed]
    exact .none rfl rfl
  · rw [subscribed]
    exact .subscribed source names callback found rfl (dealings_record _ _)

theorem World.dealing_unsubscribe (world : World host) (id : SubscriptionId) :
    world.Dealing (world.unsubscribe id).2 := by
  rcases world.unsubscribe_cases id with unknown | ⟨names, journal, known, unsubscribed⟩
  · rw [unknown]
    exact .none rfl rfl
  · rw [unsubscribed]
    exact .unsubscribed id names known rfl (dealings_record _ _)

/-- Every operation on a world is one of the four dealings. -/
theorem World.Step.dealing {before after : World host} (step : before.Step after) :
    before.Dealing after := by
  cases step with
  | register name arity code => exact dealing_of_context (watcher_register _ name arity code)
  | registerBuiltins => exact dealing_of_context rfl
  | parse source => exact dealing_of_context (watcher_parse _ source)
  | subscribe source callback => exact dealing_subscribe before source callback
  | unsubscribe id => exact dealing_unsubscribe before id
  | unload => exact .unloaded rfl (dealings_record _ _)
  | bindEvent event names => exact dealing_of_context (watcher_bindEvent _ event names)
  | addProbe sensor code => exact dealing_of_context (watcher_addProbe _ sensor code)
  | observe samples => exact dealing_of_context (watcher_observeAll _ samples)
  | report level message fields => exact dealing_of_context rfl
  | store data => exact dealing_of_context rfl
  | started callback => exact .none rfl ((dealings_record _ _).trans (List.append_nil _))
  | ended callback outcome => exact .none rfl ((dealings_record _ _).trans (List.append_nil _))

/-! ## The record and the watcher -/

/-- The watcher of a world is what its record says. -/
structure World.Faithful (world : World host) : Prop where
  consistent : world.watcher.Consistent
  ascending : world.handedOut.Pairwise (· < ·)
  below : ∀ id ∈ world.handedOut, id < world.watcher.nextId
  removed : ∀ id, .unsubscribed id ∈ world.dealings → id ∈ world.handedOut
  unloaded_iff : world.watcher.unloaded = true ↔ .unloaded ∈ world.dealings
  live_iff : ∀ id,
    world.watcher.isLive id = true ↔
      id ∈ world.handedOut ∧ .unsubscribed id ∉ world.dealings ∧ .unloaded ∉ world.dealings
  /-- A subscription that is kept stands with its callback under the names in its text. -/
  served : ∀ id source callback names,
    .subscribed id source callback ∈ world.dealings →
      world.watcher.watchedNames? id = some names →
        Token.namesIn source = .ok names ∧
          ∀ name ∈ names, ⟨id, callback⟩ ∈ world.watcher.subscribers name

theorem World.Fresh.faithful {world : World host} (fresh : world.Fresh) : world.Faithful := by
  have none : world.dealings = [] := by rw [dealings, fresh.events_eq]; rfl
  have unissued : world.handedOut = [] := by rw [handedOut, fresh.events_eq]; rfl
  constructor
  · rw [fresh.watcher_eq]
    exact Watcher.empty_consistent
  all_goals simp [none, unissued, fresh.watcher_eq, Watcher.empty, Watcher.isLive,
    Table.contains]

namespace World.Faithful

variable {before after : World host} (faithful : before.Faithful)
include faithful

theorem of_none
    (watcher : after.watcher = before.watcher)
    (dealings : after.dealings = before.dealings) : after.Faithful := by
  have handedOut : after.handedOut = before.handedOut := by
    rw [handedOut_eq, handedOut_eq, dealings]
  constructor
  · rw [watcher]
    exact faithful.consistent
  · rw [handedOut]
    exact faithful.ascending
  · rw [handedOut, watcher]
    exact faithful.below
  · rw [handedOut, dealings]
    exact faithful.removed
  · rw [watcher, dealings]
    exact faithful.unloaded_iff
  · rw [watcher, handedOut, dealings]
    exact faithful.live_iff
  · rw [watcher, dealings]
    exact faithful.served

theorem of_subscribed {source : String} {names : List String} {callback : host.Callback}
    (found : Token.namesIn source = .ok names)
    (watcher : after.watcher = (before.watcher.subscribe names callback).2)
    (dealings : after.dealings =
      before.dealings ++ [.subscribed before.watcher.nextId source callback]) :
    after.Faithful := by
  have handedOut : after.handedOut = before.handedOut ++ [before.watcher.nextId] := by
    rw [handedOut_eq, handedOut_eq, dealings, List.filterMap_append]
    rfl
  have distinct := Token.nodup_namesIn found
  have unissued : before.watcher.nextId ∉ before.handedOut := fun member =>
    Nat.lt_irrefl _ (faithful.below _ member)
  constructor
  · rw [watcher]
    exact faithful.consistent.subscribe distinct callback
  · rw [handedOut, List.pairwise_append]
    refine ⟨faithful.ascending, List.pairwise_singleton _ _, ?_⟩
    intro id member next last
    rw [List.mem_singleton.mp last]
    exact faithful.below id member
  · intro id member
    rw [handedOut, List.mem_append, List.mem_singleton] at member
    rw [watcher, Watcher.nextId_subscribe]
    rcases member with old | new
    · exact Nat.lt_succ_of_lt (faithful.below id old)
    · exact new ▸ Nat.lt_succ_self _
  · intro id member
    rw [dealings] at member
    rw [handedOut]
    exact List.mem_append_left _ (faithful.removed id (by simpa using member))
  · rw [watcher, dealings, Watcher.unloaded_subscribe, faithful.unloaded_iff]
    simp
  · intro id
    rw [watcher, Watcher.isLive_subscribe, handedOut, dealings, faithful.live_iff,
      ← Bool.not_eq_true, faithful.unloaded_iff]
    by_cases new : id = before.watcher.nextId
    · have kept : .unsubscribed id ∉ before.dealings := fun member =>
        unissued (new ▸ faithful.removed id member)
      simp [new, new ▸ kept]
    · simp only [new, List.mem_append, List.mem_singleton, false_or, or_false, reduceCtorEq]
      constructor
      · rintro ⟨-, kept⟩
        exact kept
      · intro kept
        exact ⟨kept.2.2, kept⟩
  · intro id text known watched member kept
    rw [watcher] at kept ⊢
    cases unloaded : before.watcher.unloaded with
    | true =>
        have cleared := (faithful.consistent.subscribe distinct callback).watchedNames?_of_unloaded
          ((Watcher.unloaded_subscribe callback).trans unloaded) id
        rw [cleared] at kept
        cases kept
    | false =>
        rw [Watcher.watchedNames?_subscribe callback unloaded] at kept
        rw [dealings, List.mem_append, List.mem_singleton] at member
        rcases member with old | new
        · have earlier : id ∈ before.handedOut := mem_handedOut.mpr ⟨_, _, old⟩
          have other : id ≠ before.watcher.nextId := fun same => unissued (same ▸ earlier)
          rw [if_neg other] at kept
          rcases faithful.served id text known watched old kept with ⟨foundThen, listed⟩
          refine ⟨foundThen, fun name member => ?_⟩
          rw [Watcher.subscribers_subscribe callback unloaded distinct]
          exact List.mem_append_left _ (listed name member)
        · cases new
          rw [if_pos rfl] at kept
          cases kept
          refine ⟨found, fun name member => ?_⟩
          rw [Watcher.subscribers_subscribe callback unloaded distinct, if_pos member]
          exact List.mem_append_right _ (List.mem_singleton_self _)

theorem of_unsubscribed {id : SubscriptionId} {names : List String}
    (known : before.watcher.watchedNames? id = some names)
    (watcher : after.watcher = (before.watcher.unsubscribe id).2)
    (dealings : after.dealings = before.dealings ++ [.unsubscribed id]) : after.Faithful := by
  have handedOut : after.handedOut = before.handedOut := by
    rw [handedOut_eq, handedOut_eq, dealings, List.filterMap_append]
    exact List.append_nil _
  have live := faithful.consistent.isLive_iff.mpr ⟨names, known⟩
  constructor
  · rw [watcher]
    exact faithful.consistent.unsubscribe id
  · rw [handedOut]
    exact faithful.ascending
  · rw [handedOut, watcher, Watcher.nextId_unsubscribe]
    exact faithful.below
  · intro other member
    rw [dealings, List.mem_append, List.mem_singleton] at member
    rw [handedOut]
    rcases member with old | new
    · exact faithful.removed other old
    · cases new
      exact ((faithful.live_iff id).mp live).1
  · rw [watcher, dealings, Watcher.unloaded_unsubscribe, faithful.unloaded_iff]
    simp
  · intro other
    rw [watcher, Watcher.isLive_unsubscribe, handedOut, dealings, faithful.live_iff]
    simp only [List.mem_append, List.mem_singleton, Event.unsubscribed.injEq, reduceCtorEq,
      or_false, not_or]
    constructor
    · rintro ⟨differ, issued, kept, loaded⟩
      exact ⟨issued, ⟨kept, differ⟩, loaded⟩
    · rintro ⟨issued, ⟨kept, differ⟩, loaded⟩
      exact ⟨differ, issued, kept, loaded⟩
  · intro other source callback watched member kept
    rw [watcher, Watcher.watchedNames?_unsubscribe] at kept
    split at kept
    · cases kept
    · next differ =>
      have old : .subscribed other source callback ∈ before.dealings := by
        simpa [dealings] using member
      rcases faithful.served other source callback watched old kept with ⟨found, listed⟩
      refine ⟨found, fun name member => ?_⟩
      rw [watcher, faithful.consistent.subscribers_unsubscribe, List.mem_filter]
      exact ⟨listed name member, decide_eq_true differ⟩

theorem of_unloaded
    (watcher : after.watcher = before.watcher.unload)
    (dealings : after.dealings = before.dealings ++ [.unloaded]) : after.Faithful := by
  have handedOut : after.handedOut = before.handedOut := by
    rw [handedOut_eq, handedOut_eq, dealings, List.filterMap_append]
    exact List.append_nil _
  have gone : .unloaded ∈ after.dealings := by
    rw [dealings]
    exact List.mem_append_right _ (List.mem_singleton_self _)
  constructor
  · rw [watcher]
    exact Watcher.unload_consistent
  · rw [handedOut]
    exact faithful.ascending
  · rw [handedOut, watcher]
    exact faithful.below
  · intro id member
    rw [handedOut]
    exact faithful.removed id (by simpa [dealings] using member)
  · rw [watcher]
    exact iff_of_true rfl gone
  · intro id
    rw [watcher, Watcher.isLive_unload]
    constructor
    · intro live
      cases live
    · intro kept
      exact absurd gone kept.2.2
  · intro id source callback watched member kept
    rw [watcher] at kept
    cases kept

theorem of_dealing (dealing : before.Dealing after) : after.Faithful := by
  cases dealing with
  | none watcher dealings => exact faithful.of_none watcher dealings
  | subscribed source names callback found watcher dealings =>
      exact faithful.of_subscribed found watcher dealings
  | unsubscribed id names known watcher dealings =>
      exact faithful.of_unsubscribed known watcher dealings
  | unloaded watcher dealings => exact faithful.of_unloaded watcher dealings

/-- What follows in a run keeps the watcher true to its record. -/
theorem evolves (evolves : before.Evolves after) : after.Faithful := by
  induction evolves with
  | refl => exact faithful
  | tail _ step induction => exact induction.of_dealing step.dealing

end World.Faithful

theorem World.Reachable.faithful {world : World host} (reachable : world.Reachable) :
    world.Faithful := by
  rcases reachable with ⟨start, fresh, evolves⟩
  exact fresh.faithful.evolves evolves

/-! ## What was recorded since -/

/-- An operation puts one event on record at most. -/
theorem World.Step.appends {before after : World host} (step : before.Step after) :
    after.events = before.events ∨ ∃ event, after.events = before.events ++ [event] := by
  cases step with
  | subscribe source callback =>
      rcases before.subscribe_cases source callback with
        ⟨error, failed⟩ | ⟨names, journal, -, subscribed⟩
      · exact .inl (by rw [failed])
      · rw [subscribed]
        exact .inr ⟨_, rfl⟩
  | unsubscribe id =>
      rcases before.unsubscribe_cases id with unknown | ⟨names, journal, -, unsubscribed⟩
      · exact .inl (by rw [unknown])
      · rw [unsubscribed]
        exact .inr ⟨_, rfl⟩
  | unload => exact .inr ⟨_, rfl⟩
  | started callback => exact .inr ⟨_, rfl⟩
  | ended callback outcome => exact .inr ⟨_, rfl⟩
  | _ => exact .inl rfl

/-- The record of a world only grows. -/
theorem World.Step.grows {before after : World host} (step : before.Step after) :
    before.events <+: after.events := by
  rcases step.appends with unchanged | ⟨event, grown⟩
  · exact ⟨[], by rw [unchanged, List.append_nil]⟩
  · exact ⟨[event], grown.symm⟩

theorem World.Evolves.grows {before after : World host} (evolves : before.Evolves after) :
    before.events <+: after.events := by
  induction evolves with
  | refl => exact List.prefix_refl _
  | tail _ step induction => exact induction.trans step.grows

/-- The events of a world that an earlier world does not have. -/
def World.since (later earlier : World host) : List (Event host) :=
  later.events.drop earlier.events.length

theorem World.Evolves.events_eq {before after : World host} (evolves : before.Evolves after) :
    after.events = before.events ++ after.since before := by
  rcases evolves.grows with ⟨added, grown⟩
  rw [World.since, ← grown, List.drop_left]

theorem World.Evolves.handedOut_eq {before after : World host} (evolves : before.Evolves after) :
    after.handedOut = before.handedOut ++ (after.since before).filterMap Event.handedOut? := by
  rw [World.handedOut, evolves.events_eq, List.filterMap_append, World.handedOut]

section Since

variable {before after : World host}
variable (faithful : before.Faithful) (evolves : before.Evolves after)
variable {id : SubscriptionId} (live : before.watcher.isLive id = true)
include faithful evolves live

/-- What is live stays live until it is removed or everything is unloaded. -/
theorem World.Faithful.isLive_iff_since :
    after.watcher.isLive id = true ↔
      .unsubscribed id ∉ after.since before ∧ .unloaded ∉ after.since before := by
  rcases (faithful.live_iff id).mp live with ⟨issued, kept, loaded⟩
  have stillIssued : id ∈ after.handedOut := by
    rw [evolves.handedOut_eq]
    exact List.mem_append_left _ issued
  rw [(faithful.evolves evolves).live_iff id]
  simp only [mem_dealings, Event.isDealing, and_true] at kept loaded ⊢
  simp only [evolves.events_eq, List.mem_append, kept, loaded, false_or, stillIssued, true_and]

/-- What is live has another number than all that is subscribed later. -/
theorem World.Faithful.subscribed_not_mem_since (source : String) (callback : host.Callback) :
    .subscribed id source callback ∉ after.since before := by
  intro member
  have ascending := (faithful.evolves evolves).ascending
  rw [evolves.handedOut_eq, List.pairwise_append] at ascending
  have issued := ((faithful.live_iff id).mp live).1
  have again : id ∈ (after.since before).filterMap Event.handedOut? :=
    List.mem_filterMap.mpr ⟨_, member, rfl⟩
  exact Nat.lt_irrefl id (ascending.2.2 id issued id again)

end Since

/-! ## The indices in reachable worlds -/

/-- An attempt to subscribe that fails leaves the world as it is. -/
theorem World.subscribe_of_error {world after : World host}
    {source : String} {callback : host.Callback} {error : SyntaxError}
    (failed : world.subscribe source callback = (.error error, after)) : after = world := by
  rcases world.subscribe_cases source callback with
    ⟨error, same⟩ | ⟨names, journal, -, subscribed⟩
  · rw [same] at failed
    cases failed
    rfl
  · rw [subscribed] at failed
    cases failed

/-- One that succeeds hands out the next number. -/
theorem World.subscribe_of_ok {world after : World host}
    {source : String} {callback : host.Callback} {id : SubscriptionId}
    (done : world.subscribe source callback = (.ok id, after)) :
    id = world.watcher.nextId ∧ after.handedOut = world.handedOut ++ [id] := by
  rcases world.subscribe_cases source callback with
    ⟨error, failed⟩ | ⟨names, journal, -, subscribed⟩
  · rw [failed] at done
    cases done
  · rw [subscribed] at done
    cases done
    exact ⟨rfl, List.filterMap_append⟩

/--
In every reachable world the two indices of the watcher fit together: a number stands under a name
once if it watches that name, and not at all otherwise.  The lists of names have no duplicates, the
lists of numbers are never empty and ascend, and nothing is left after unloading.  All numbers in
the indices have been handed out, each new one is above all that came before, and an attempt that
fails changes nothing.
-/
theorem reachable_indices_agree {world : World host} (reachable : world.Reachable) :
    (∀ id name,
      (world.watcher.idsUnder name).count id =
        if name ∈ (world.watcher.watchedNames? id).getD [] then 1 else 0) ∧
    (∀ id names,
      world.watcher.watchedNames? id = some names → names.Nodup ∧ id < world.watcher.nextId) ∧
    (∀ name subscriptions,
      world.watcher.byName.get? name = some subscriptions →
        subscriptions ≠ [] ∧
        (subscriptions.map Subscription.id).Pairwise (· < ·) ∧
        ∀ subscription ∈ subscriptions, subscription.id < world.watcher.nextId) ∧
    (world.watcher.unloaded = true →
      world.watcher.byName = .empty ∧ world.watcher.byId = .empty) ∧
    (∀ source callback error after,
      world.subscribe source callback = (.error error, after) → after = world) ∧
    (∀ source callback id after,
      world.subscribe source callback = (.ok id, after) →
        id ∉ world.handedOut ∧ after.handedOut = world.handedOut ++ [id]) ∧
    world.handedOut.Pairwise (· < ·) := by
  have faithful := reachable.faithful
  have consistent := faithful.consistent
  refine ⟨consistent.count_idsUnder, ?_, ?_, consistent.cleared, ?_, ?_, faithful.ascending⟩
  · intro id names known
    exact ⟨consistent.distinct id names known, consistent.issued id names known⟩
  · intro name subscriptions stored
    have under : world.watcher.subscribers name = subscriptions := by
      rw [Watcher.subscribers, stored]
      rfl
    refine ⟨?_, ?_, ?_⟩
    · intro empty
      exact consistent.inhabited name (empty ▸ stored)
    · have ordered := consistent.ordered name
      rw [Watcher.idsUnder, under] at ordered
      exact ordered
    · intro subscription member
      have listed : subscription.id ∈ world.watcher.idsUnder name :=
        Watcher.mem_idsUnder.mpr ⟨subscription, under ▸ member, rfl⟩
      exact consistent.lt_nextId listed
  · intro source callback error after failed
    exact World.subscribe_of_error failed
  · intro source callback id after subscribed
    rcases World.subscribe_of_ok subscribed with ⟨next, handedOut⟩
    refine ⟨fun member => ?_, handedOut⟩
    exact Nat.lt_irrefl _ (next ▸ faithful.below id member)

theorem reachable_indices_agree_meddled :
    Errand.meddled.handedOut = [1, 2, 3, 4] ∧
    Errand.meddled.watcher.idsUnder "f" = [2, 4] ∧
    (∀ id name,
      (Errand.meddled.watcher.idsUnder name).count id =
        if name ∈ (Errand.meddled.watcher.watchedNames? id).getD [] then 1 else 0) ∧
    Errand.meddled.handedOut.Pairwise (· < ·) := by
  have meddled : Errand.meddled.Reachable := Errand.waiting_reachable.run Errand.program 2 _
  rcases reachable_indices_agree meddled with ⟨counted, -, -, -, -, -, ascending⟩
  exact ⟨by decide +kernel, by decide +kernel, counted, ascending⟩

end Vigil.Hosting
