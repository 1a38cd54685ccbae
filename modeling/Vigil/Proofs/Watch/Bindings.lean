import Mathlib.Data.List.Induction
import Vigil.Proofs.Sensor.Permanence
import Vigil.Proofs.Watch.History

/-!
# What events are bound to

A context is created with the bindings of its settings, and from then on an event may be bound again
and again.  Each time it is bound to the names that it is not bound to yet, so in the end it touches
all the names that it was ever bound to, each once, in the order in which they came first.  Nothing
else adds to the bindings, and only unloading takes them away.

The operations on a world are given here as data, so that a history of a world is a list of them and
what was bound since its creation can be read off it.  In the same way probes come in one by one,
and no two of them have one name.
-/

namespace Vigil

/-! ## Tables of bindings -/

namespace EventBindings

theorem eraseDups_concat (names : List String) (name : String) :
    (names ++ [name]).eraseDups =
      if name ∈ names then names.eraseDups else names.eraseDups ++ [name] := by
  rw [List.eraseDups_append]
  by_cases member : name ∈ names
  · simp [List.removeAll, member]
  · simp [List.removeAll, member, List.eraseDups_cons]

/-- Names are appended where they are new, so each stands where it came first. -/
theorem merge_eraseDups (known names : List String) :
    merge known.eraseDups names = (known ++ names).eraseDups := by
  induction names generalizing known with
  | nil => rw [merge, List.append_nil]
  | cons name rest induction =>
      rw [merge, List.append_cons known name rest, ← induction, eraseDups_concat]
      simp only [List.mem_eraseDups]
      split <;> rfl

/-- Bind events one after the other. -/
def bindAll (bindings : EventBindings) (events : List EventSetting) : EventBindings :=
  events.foldl (fun bindings event => bindings.bind event.name event.touches) bindings

/-- All names that an event is bound to, in order. -/
def boundTo (event : String) (events : List EventSetting) : List String :=
  (events.filter (·.name = event)).flatMap EventSetting.touches

theorem boundTo_concat (event : String) (events : List EventSetting) (last : EventSetting) :
    boundTo event (events ++ [last]) =
      boundTo event events ++ if last.name = event then last.touches else [] := by
  rw [boundTo, List.filter_append, List.flatMap_append, boundTo]
  by_cases same : last.name = event <;> simp [same]

theorem boundTo_of_unbound {event : String} {events : List EventSetting}
    (unbound : event ∉ events.map EventSetting.name) : boundTo event events = [] := by
  rw [boundTo, List.filter_eq_nil_iff.mpr, List.flatMap_nil]
  intro other member same
  exact unbound (List.mem_map.mpr ⟨other, member, of_decide_eq_true same⟩)

theorem bindAll_concat (bindings : EventBindings) (events : List EventSetting)
    (last : EventSetting) :
    bindAll bindings (events ++ [last]) =
      (bindAll bindings events).bind last.name last.touches := by
  rw [bindAll, List.foldl_append]
  rfl

/-- An event touches what it was bound to, each name once, and nothing if it was never bound. -/
theorem touches?_bindAll (event : String) (events : List EventSetting) :
    (bindAll .empty events).touches? event =
      if event ∈ events.map EventSetting.name then some (boundTo event events).eraseDups
      else none := by
  induction events using List.reverseRecOn with
  | nil => rfl
  | append_singleton earlier last induction =>
      rw [touches?] at induction ⊢
      rw [bindAll_concat, bind, boundTo_concat, List.map_append, List.map_singleton]
      by_cases same : last.name = event
      · subst same
        have before : ((bindAll .empty earlier).get? last.name).getD [] =
            (boundTo last.name earlier).eraseDups := by
          rw [induction]
          split
          · rfl
          · next unbound =>
            rw [boundTo_of_unbound unbound]
            rfl
        rw [Table.get?_put_self, before, merge_eraseDups, if_pos rfl, if_pos (by simp)]
      · rw [Table.get?_put_ne _ _ (Ne.symm same), if_neg same, List.append_nil, induction]
        simp [Ne.symm same]

end EventBindings

/-! ## Names of probes -/

namespace Poller

variable {Code : Type} {poller : Poller Code}

theorem names_observe (name : String) (sample : Value) :
    (poller.observe name sample).2.names = poller.names := by
  rw [observe]
  split
  · rfl
  · split
    · rw [names, List.map_map]
      refine List.map_congr_left fun probe _ => ?_
      dsimp only [Function.comp]
      split <;> rfl
    · rfl

theorem names_observeAll (samples : List (String × Value)) :
    (poller.observeAll samples).2.names = poller.names := by
  induction samples generalizing poller with
  | nil => rfl
  | cons sample rest induction => exact induction.trans (names_observe sample.1 sample.2)

theorem nodup_add {extended : Poller Code} {sensor : String} {code : Code}
    (distinct : poller.names.Nodup) (added : poller.add sensor code = .ok extended) :
    extended.names.Nodup := by
  rw [add] at added
  split at added
  · cases added
  · split at added
    · cases added
    · next new =>
      cases added
      rw [names, List.map_append, List.nodup_append]
      refine ⟨distinct, List.pairwise_singleton _ _, ?_⟩
      rintro name member other single rfl
      cases List.mem_singleton.mp single
      exact new member

/-- What is reported as a change was sampled, in the same order. -/
theorem changes_sublist (samples : List (String × Value)) :
    (poller.observeAll samples).1.Sublist samples := by
  induction samples generalizing poller with
  | nil => exact .slnil
  | cons sample rest induction =>
      rw [observeAll]
      dsimp only
      split
      · exact induction.cons_cons sample
      · exact induction.cons sample

end Poller

namespace Hosting

variable {host : Host}

/-! ## Operations as data -/

/-- An operation on a world. -/
inductive Operation (host : Host) where
  | register (name : String) (arity : Nat) (code : host.Sensor)
  | registerBuiltins
  | parse (source : String)
  | subscribe (source : String) (callback : host.Callback)
  | unsubscribe (id : SubscriptionId)
  | unload
  | bindEvent (event : String) (names : List String)
  | addProbe (sensor : String) (code : host.Probe)
  | observe (samples : List (String × Value))
  | report (level : Log.Level) (message : String) (fields : List (String × String))
  | store (data : host.Data)
  | started (callback : host.Callback)
  | ended (callback : host.Callback) (outcome : Outcome)

/-- What an operation binds. -/
def Operation.binding? : Operation host → Option EventSetting
  | bindEvent event names => some ⟨event, names⟩
  | _ => none

/-- The text that an operation reads through the cache. -/
def Operation.text? : Operation host → Option String
  | parse source => some source
  | _ => none

/-- The sensor for which an operation adds a probe. -/
def Operation.probed? : Operation host → Option String
  | addProbe sensor _ => some sensor
  | _ => none

/-- Whether an operation unloads. -/
def Operation.unloads : Operation host → Bool
  | unload => true
  | _ => false

namespace World

/-- Carry out an operation. -/
def carryOut (world : World host) : Operation host → World host
  | .register name arity code =>
    world.withContext (world.context.register name arity code).2
  | .registerBuiltins => world.withContext world.context.registerBuiltins.2
  | .parse source => world.withContext (world.context.parse source).2
  | .subscribe source callback => (world.subscribe source callback).2
  | .unsubscribe id => (world.unsubscribe id).2
  | .unload => world.unload
  | .bindEvent event names => world.withContext (world.context.bindEvent event names)
  | .addProbe sensor code => world.withContext (world.context.addProbe sensor code).2
  | .observe samples => world.withContext (world.context.observeAll samples).2
  | .report level message fields => world.withContext (world.context.log level message fields)
  | .store data => world.withContext { world.context with data }
  | .started callback => world.record (.started callback)
  | .ended callback outcome => world.record (.ended callback outcome)

theorem step_carryOut (world : World host) (operation : Operation host) :
    world.Step (world.carryOut operation) := by
  cases operation with
  | register name arity code => exact .register world name arity code
  | registerBuiltins => exact .registerBuiltins world
  | parse source => exact .parse world source
  | subscribe source callback => exact .subscribe world source callback
  | unsubscribe id => exact .unsubscribe world id
  | unload => exact .unload world
  | bindEvent event names => exact .bindEvent world event names
  | addProbe sensor code => exact .addProbe world sensor code
  | observe samples => exact .observe world samples
  | report level message fields => exact .report world level message fields
  | store data => exact .store world data
  | started callback => exact .started world callback
  | ended callback outcome => exact .ended world callback outcome

theorem Step.exists_carryOut {before after : World host} (step : before.Step after) :
    ∃ operation, after = before.carryOut operation := by
  cases step with
  | register name arity code => exact ⟨.register name arity code, rfl⟩
  | registerBuiltins => exact ⟨.registerBuiltins, rfl⟩
  | parse source => exact ⟨.parse source, rfl⟩
  | subscribe source callback => exact ⟨.subscribe source callback, rfl⟩
  | unsubscribe id => exact ⟨.unsubscribe id, rfl⟩
  | unload => exact ⟨.unload, rfl⟩
  | bindEvent event names => exact ⟨.bindEvent event names, rfl⟩
  | addProbe sensor code => exact ⟨.addProbe sensor code, rfl⟩
  | observe samples => exact ⟨.observe samples, rfl⟩
  | report level message fields => exact ⟨.report level message fields, rfl⟩
  | store data => exact ⟨.store data, rfl⟩
  | started callback => exact ⟨.started callback, rfl⟩
  | ended callback outcome => exact ⟨.ended callback outcome, rfl⟩

/-- The world after some operations. -/
def afterAll (world : World host) (operations : List (Operation host)) : World host :=
  operations.foldl carryOut world

theorem afterAll_concat (world : World host) (operations : List (Operation host))
    (last : Operation host) :
    world.afterAll (operations ++ [last]) = (world.afterAll operations).carryOut last := by
  rw [afterAll, List.foldl_append]
  rfl

/-- Worlds evolve by lists of operations, whatever code asks for them. -/
theorem evolves_iff {before after : World host} :
    before.Evolves after ↔ ∃ operations, after = before.afterAll operations := by
  constructor
  · intro evolves
    induction evolves with
    | refl => exact ⟨[], rfl⟩
    | tail _ step induction =>
        rcases induction with ⟨operations, rfl⟩
        rcases step.exists_carryOut with ⟨last, rfl⟩
        exact ⟨operations ++ [last], (before.afterAll_concat operations last).symm⟩
  · rintro ⟨operations, rfl⟩
    induction operations using List.reverseRecOn with
    | nil => exact .refl before
    | append_singleton earlier last induction =>
        rw [afterAll_concat]
        exact induction.trans (step_carryOut _ last).evolves

/-! ## Worlds from their creation on -/

/-- A world that has just been created with some bindings, and in which nothing is sampled. -/
structure Created (configured : List EventSetting) (world : World host) : Prop
    extends world.Fresh where
  bindings : world.context.events = .bindAll .empty configured
  unprobed : world.context.poller.probes = []

theorem created_of_settings {settings : Settings} {data : host.Data} {context : Context host}
    (made : Context.ofSettings settings data = .ok context) :
    Created settings.events ⟨context, []⟩ := by
  rcases Context.ofSettings_succeeds settings data with ⟨fields, succeeds⟩
  rw [succeeds] at made
  cases made
  exact ⟨⟨rfl, rfl⟩, rfl, rfl⟩

theorem loaded_of_carryOut {world : World host} {operation : Operation host}
    (loaded : (world.carryOut operation).watcher.unloaded = false) :
    world.watcher.unloaded = false := by
  cases (world.step_carryOut operation).dealing with
  | none watcher _ => rwa [watcher] at loaded
  | subscribed source names callback _ watcher _ =>
      rwa [watcher, Watcher.unloaded_subscribe] at loaded
  | unsubscribed id names _ watcher _ => rwa [watcher, Watcher.unloaded_unsubscribe] at loaded
  | unloaded watcher _ =>
      rw [watcher] at loaded
      cases loaded

/-- The parts of a context that an operation leaves as they are. -/
structure Spares (operation : Operation host) (before after : Context host) : Prop where
  cache : operation.text? = none → after.cache = before.cache
  events : operation.binding? = none → operation.unloads = false → after.events = before.events
  probes : operation.probed? = none → operation.unloads = false →
    after.poller.names = before.poller.names

theorem Spares.of_same {operation : Operation host} {before after : Context host}
    (cache : after.cache = before.cache) (events : after.events = before.events)
    (poller : after.poller = before.poller) : Spares operation before after :=
  ⟨fun _ => cache, fun _ _ => events, fun _ _ => congrArg Poller.names poller⟩

/-- Most operations have nothing to do with the cache, the bindings or the probes. -/
theorem spares_carryOut (world : World host) (operation : Operation host) :
    Spares operation world.context (world.carryOut operation).context := by
  cases operation with
  | register name arity code =>
      rw [carryOut, Context.register]
      split <;> exact .of_same rfl rfl rfl
  | parse source =>
      refine ⟨fun silent => ?_, fun _ _ => rfl, fun _ _ => rfl⟩
      cases silent
  | subscribe source callback =>
      rw [carryOut]
      rcases world.subscribe_cases source callback with
        ⟨error, failed⟩ | ⟨names, journal, -, subscribed⟩
      · rw [failed]
        exact .of_same rfl rfl rfl
      · rw [subscribed]
        exact .of_same rfl rfl rfl
  | unsubscribe id =>
      rw [carryOut]
      rcases world.unsubscribe_cases id with unknown | ⟨names, journal, -, unsubscribed⟩
      · rw [unknown]
        exact .of_same rfl rfl rfl
      · rw [unsubscribed]
        exact .of_same rfl rfl rfl
  | unload =>
      refine ⟨fun _ => rfl, fun _ loaded => ?_, fun _ loaded => ?_⟩
      all_goals cases loaded
  | bindEvent event names =>
      rw [carryOut, Context.bindEvent]
      split
      · exact .of_same rfl rfl rfl
      · refine ⟨fun _ => rfl, fun unbound => ?_, fun _ _ => rfl⟩
        cases unbound
  | addProbe sensor code =>
      rw [carryOut, Context.addProbe]
      split
      · exact .of_same rfl rfl rfl
      · split
        · exact .of_same rfl rfl rfl
        · refine ⟨fun _ => rfl, fun _ _ => rfl, fun unprobed => ?_⟩
          cases unprobed
  | observe samples =>
      refine ⟨fun _ => view_observeAll _ (fun _ _ => rfl) (fun _ _ _ _ => rfl) samples,
        fun _ _ => view_observeAll _ (fun _ _ => rfl) (fun _ _ _ _ => rfl) samples, fun _ _ => ?_⟩
      rw [carryOut, withContext, poller_observeAll, Poller.names_observeAll]
  | _ => exact .of_same rfl rfl rfl

/-- Where nothing is unloaded, an operation binds what it says. -/
theorem events_carryOut {world : World host} {operation : Operation host}
    (loaded : (world.carryOut operation).watcher.unloaded = false) :
    (world.carryOut operation).context.events =
      EventBindings.bindAll world.context.events operation.binding?.toList := by
  have before := loaded_of_carryOut loaded
  cases operation with
  | unload => cases loaded
  | bindEvent event names =>
      rw [carryOut, Context.bindEvent]
      exact congrArg Context.events (if_neg (Bool.eq_false_iff.mp before))
  | _ => exact (world.spares_carryOut _).events rfl rfl

/-- The probes of a world have distinct names, and so they do after an operation. -/
theorem nodup_carryOut {world : World host} (distinct : world.context.poller.names.Nodup)
    (operation : Operation host) :
    (world.carryOut operation).context.poller.names.Nodup := by
  have spares := world.spares_carryOut operation
  cases operation with
  | unload => exact .nil
  | addProbe sensor code =>
      rw [carryOut, Context.addProbe]
      split
      · exact distinct
      · split
        · exact distinct
        · next added => exact Poller.nodup_add distinct added
  | _ =>
      rw [spares.probes rfl rfl]
      exact distinct

section Created

variable {configured : List EventSetting} {start : World host} (created : start.Created configured)
include created

theorem Created.reachable (operations : List (Operation host)) :
    (start.afterAll operations).Reachable :=
  ⟨start, created.toFresh, evolves_iff.mpr ⟨operations, rfl⟩⟩

/-- The bindings are all that were made since the creation. -/
theorem Created.bound_eq {operations : List (Operation host)}
    (loaded : (start.afterAll operations).watcher.unloaded = false) :
    (start.afterAll operations).context.events =
      .bindAll .empty (configured ++ operations.filterMap Operation.binding?) := by
  induction operations using List.reverseRecOn with
  | nil =>
      rw [List.filterMap_nil, List.append_nil]
      exact created.bindings
  | append_singleton earlier last induction =>
      rw [afterAll_concat] at loaded ⊢
      rw [events_carryOut loaded, induction (loaded_of_carryOut loaded), List.filterMap_append,
        ← List.append_assoc, EventBindings.bindAll, EventBindings.bindAll, ← List.foldl_append]
      cases bound : last.binding? <;> simp [bound, EventBindings.bindAll]

theorem Created.nodup_probes (operations : List (Operation host)) :
    (start.afterAll operations).context.poller.names.Nodup := by
  induction operations using List.reverseRecOn with
  | nil =>
      show (start.context.poller.probes.map Probe.name).Nodup
      rw [created.unprobed]
      exact .nil
  | append_singleton earlier last induction =>
      rw [afterAll_concat]
      exact nodup_carryOut induction last

end Created

end World

end Hosting

end Vigil
