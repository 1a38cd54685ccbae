import Vigil.Proofs.Settings.Validation
import Vigil.Proofs.Watch.Bindings

/-!
# What is built from valid settings

The tables of a context are built by putting in one entry after the other, where a later entry of a
name would be merged with an earlier one or take its place, and a word that stands for no strategy
would be read as the usual one.  In valid settings every name occurs once and every word has a
meaning, so every entry comes out as it was written.
-/

namespace Vigil

/-! ## Entries of different names -/

namespace Table

variable {κ ν Item : Type} [DecidableEq κ] (key : Item → κ) (value : Item → ν)

theorem get?_foldl_put_of_not_mem {items : List Item} {name : κ} (absent : name ∉ items.map key)
    (table : Table κ ν) :
    (items.foldl (fun table item => table.put (key item) (value item)) table).get? name =
      table.get? name := by
  induction items generalizing table with
  | nil => rfl
  | cons item rest induction =>
      rw [List.map_cons, List.mem_cons, not_or] at absent
      exact (induction absent.2 _).trans (get?_put_ne _ _ absent.1)

theorem get?_foldl_put_of_mem {items : List Item} {item : Item} (once : (items.map key).Nodup)
    (member : item ∈ items) (table : Table κ ν) :
    (items.foldl (fun table item => table.put (key item) (value item)) table).get? (key item) =
      some (value item) := by
  induction items generalizing table with
  | nil => cases member
  | cons first rest induction =>
      rcases List.nodup_cons.mp once with ⟨apart, others⟩
      rcases List.mem_cons.mp member with rfl | later
      · exact (get?_foldl_put_of_not_mem key value apart _).trans (get?_put_self _ _ _)
      · exact induction others later _

end Table

theorem EventBindings.boundTo_of_once {events : List EventSetting} {event : EventSetting}
    (once : (events.map EventSetting.name).Nodup) (member : event ∈ events) :
    boundTo event.name events = event.touches := by
  induction events with
  | nil => cases member
  | cons first rest induction =>
      rcases List.nodup_cons.mp once with ⟨apart, others⟩
      rcases List.mem_cons.mp member with rfl | later
      · have unbound := boundTo_of_unbound apart
        rw [boundTo, List.filter_cons_of_pos (by simp), List.flatMap_cons, ← boundTo,
          unbound, List.append_nil]
      · have differ : first.name ≠ event.name := fun same =>
          apart (same ▸ List.mem_map_of_mem later)
        rw [boundTo, List.filter_cons_of_neg (by simpa using differ), ← boundTo]
        exact induction others later

namespace Settings

variable {settings : Settings}

/-! ## Events -/

theorem touches?_of_mem (valid : settings.Valid) {event : EventSetting}
    (member : event ∈ settings.events) :
    settings.eventBindings.touches? event.name = some event.touches.eraseDups := by
  have bound := EventBindings.touches?_bindAll event.name settings.events
  rw [if_pos (List.mem_map_of_mem member),
    EventBindings.boundTo_of_once valid.eventsOnce member] at bound
  exact bound

theorem touches?_of_not_mem {name : String}
    (unlisted : name ∉ settings.events.map EventSetting.name) :
    settings.eventBindings.touches? name = none :=
  (EventBindings.touches?_bindAll name settings.events).trans (if_neg unlisted)

/-! ## Sensors -/

theorem strategyOf_of_mem (valid : settings.Valid) {sensor : SensorSetting}
    (member : sensor ∈ settings.sensors) :
    ∃ strategy, Strategy.ofWord? sensor.strategy = some strategy ∧
      strategy.word = sensor.strategy ∧
      settings.strategyTable.get? sensor.name = some strategy := by
  have stored : settings.strategyTable.get? sensor.name =
      some ((Strategy.ofWord? sensor.strategy).getD .push) :=
    Table.get?_foldl_put_of_mem _ _ valid.sensorsOnce member .empty
  rcases valid.strategies sensor member with word | word
  · rw [word] at stored ⊢
    exact ⟨.push, rfl, rfl, stored⟩
  · rw [word] at stored ⊢
    exact ⟨.poll, rfl, rfl, stored⟩

theorem get?_strategyTable_of_not_mem {name : String}
    (unlisted : name ∉ settings.sensors.map SensorSetting.name) :
    settings.strategyTable.get? name = none :=
  Table.get?_foldl_put_of_not_mem _ _ unlisted .empty

/-- A sensor is pushed by a decision of the settings exactly where its word says so. -/
theorem get?_strategyTable_eq_push_iff (valid : settings.Valid) {name : String} :
    settings.strategyTable.get? name = some .push ↔
      ∃ sensor ∈ settings.sensors, sensor.name = name ∧ sensor.strategy = "push" := by
  constructor
  · intro pushed
    by_cases listed : name ∈ settings.sensors.map SensorSetting.name
    · rcases List.mem_map.mp listed with ⟨sensor, member, rfl⟩
      rcases strategyOf_of_mem valid member with ⟨strategy, -, word, stored⟩
      cases pushed.symm.trans stored
      exact ⟨sensor, member, rfl, word.symm⟩
    · cases pushed.symm.trans (get?_strategyTable_of_not_mem listed)
  · rintro ⟨sensor, member, rfl, word⟩
    rcases strategyOf_of_mem valid member with ⟨strategy, means, -, stored⟩
    rw [word] at means
    cases means
    exact stored

end Settings

/-! ## The context -/

variable {host : Host}

/-- The first probe of a context conflicts with nothing but the strategy of its sensor. -/
theorem Context.addProbe_first {context : Context host} (loaded : context.watcher.unloaded = false)
    (unprobed : context.poller.probes = []) (sensor : String) (code : host.Probe) :
    (context.addProbe sensor code).1 =
      if context.poller.strategies.get? sensor = some .push then .error (.pushed sensor)
      else .ok () := by
  have free : sensor ∉ context.poller.names := by
    rw [Poller.names, unprobed]
    exact List.not_mem_nil
  rw [addProbe, loaded, if_neg Bool.false_ne_true, Poller.add, if_neg free]
  by_cases pushed : context.poller.strategies.get? sensor = some .push
  · rw [if_pos pushed, if_pos pushed]
  · rw [if_neg pushed, if_neg pushed]

/--
Settings are accepted exactly if they are valid, and of all that is wrong with others the first is
reported.  Accepted settings mean what they say.  Each event is bound to its touches without
repetitions, and nothing else is bound; each sensor has the strategy of its word, which has one, and
no other sensor has one; a context is made of them; and in this context a probe is refused exactly
for the sensors that are to be pushed.
-/
theorem Settings.accepted_settings_are_kept (settings : Settings) (data : host.Data) :
    (settings.validate = .ok () ↔ settings.Valid) ∧
    (∀ fault, settings.validate = .error fault ↔
      settings.Violates fault ∧
        ∀ other, settings.Violates other → other ≠ fault → fault.place < other.place) ∧
    (settings.validate = .ok () →
      ((∀ event ∈ settings.events,
          settings.eventBindings.touches? event.name = some event.touches.eraseDups) ∧
        ∀ name ∉ settings.events.map EventSetting.name,
          settings.eventBindings.touches? name = none) ∧
      ((∀ sensor ∈ settings.sensors, ∃ strategy,
          Strategy.ofWord? sensor.strategy = some strategy ∧ strategy.word = sensor.strategy ∧
            settings.strategyTable.get? sensor.name = some strategy) ∧
        ∀ name ∉ settings.sensors.map SensorSetting.name,
          settings.strategyTable.get? name = none) ∧
      ∃ context, Context.ofSettings settings data = .ok context ∧
        context.events = settings.eventBindings ∧
        context.poller.strategies = settings.strategyTable ∧
        ∀ name code,
          ((context.addProbe name code).1 = .error (.pushed name) ↔
            ∃ sensor ∈ settings.sensors, sensor.name = name ∧ sensor.strategy = "push") ∧
          ((context.addProbe name code).1 = .ok () ↔
            ¬∃ sensor ∈ settings.sensors, sensor.name = name ∧ sensor.strategy = "push")) := by
  refine ⟨settings.validate_eq_ok_iff, fun fault => validate_eq_error_iff, fun accepted => ?_⟩
  have valid := settings.validate_eq_ok_iff.mp accepted
  rcases Context.ofSettings_succeeds settings data with ⟨fields, made⟩
  refine ⟨⟨fun event => touches?_of_mem valid, fun name => touches?_of_not_mem⟩,
    ⟨fun sensor => strategyOf_of_mem valid, fun name => get?_strategyTable_of_not_mem⟩,
    _, made, rfl, rfl, fun name code => ?_⟩
  rw [Context.addProbe_first rfl rfl, ← get?_strategyTable_eq_push_iff valid]
  show ((if settings.strategyTable.get? name = some .push then _ else _) = _ ↔ _) ∧
    ((if settings.strategyTable.get? name = some .push then _ else _) = _ ↔ _)
  split
  · next pushed => simp [pushed]
  · next other => simp [other]

/-- An event that touches a function twice, a sensor that is pushed and one that is polled. -/
def Settings.porch : Settings :=
  { Settings.default with
    events := [⟨"door.moved", ["isOpen", "isLit", "isOpen"]⟩]
    sensors := [⟨"isOpen", "push"⟩, ⟨"isLit", "poll"⟩] }

theorem Settings.accepted_settings_are_kept_porch :
    porch.validate = .ok () ∧
      ∃ context : Context ⟨Empty, Empty, Unit, Unit⟩,
        Context.ofSettings porch () = .ok context ∧
          context.events.touches? "door.moved" = some ["isOpen", "isLit"] ∧
          (context.addProbe "isOpen" ()).1 = .error (.pushed "isOpen") ∧
          (context.addProbe "isLit" ()).1 = .ok () := by
  have faultless : porch.fault? = none := by decide +kernel
  have accepted : porch.validate = .ok () := by rw [validate, faultless]
  rcases (@accepted_settings_are_kept ⟨Empty, Empty, Unit, Unit⟩ porch ()).2.2 accepted with
    ⟨⟨bound, -⟩, -, context, made, events, -, probed⟩
  refine ⟨accepted, context, made, ?touches, ?pushed, ?polled⟩
  case touches =>
    rw [events]
    exact bound _ (.head _)
  case pushed => exact (probed "isOpen" ()).1.mpr ⟨_, .head _, rfl, rfl⟩
  case polled =>
    refine (probed "isLit" ()).2.mpr ?_
    rintro ⟨sensor, member, name, word⟩
    rcases List.mem_pair.mp member with rfl | rfl
    · exact absurd name (by decide)
    · exact absurd word (by decide)

end Vigil
