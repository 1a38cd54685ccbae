import Mathlib.Data.List.Nodup
import Mathlib.Data.List.TakeWhile
import Mathlib.Data.Prod.Lex
import Mathlib.Tactic.MkIffOfInductiveProp
import Vigil.Settings

/-!
# Valid settings

Whether settings are valid is a condition on all of their events and sensors (`Settings.Valid`), and
what may be wrong with settings that are not valid is a list of kinds of violations
(`Settings.Violates`).  Validation looks for violations in a fixed order: the level, then the
events, then the sensors, each of them by its index.  It accepts exactly the valid settings, and of
the others it reports the violation that comes first in this order.

`IsFirst` says of an answer that it is the first of some faults.  It is what every step of the
validation has to show, and `IsFirst.or` puts two steps together.
-/

namespace Vigil

/-! ## Blank texts -/

/-- Nothing is left of a text exactly if all of it is blank. -/
theorem Text.trim_eq_empty_iff {text : String} :
    trim text = "" ↔ ∀ character ∈ text.toList, isBlank character = true := by
  rw [trim, String.ofList_eq_empty_iff, trimEnd, List.reverse_eq_nil_iff,
    List.dropWhile_eq_nil_iff]
  constructor
  · intro blank character member
    rw [← List.takeWhile_append_dropWhile (p := isBlank) (l := text.toList)] at member
    rcases List.mem_append.mp member with before | after
    · exact List.all_eq_true.mp List.all_takeWhile character before
    · exact blank character (List.mem_reverse.mpr after)
  · intro blank character member
    exact blank character ((List.dropWhile_sublist _).subset (List.mem_reverse.mp member))

/-! ## Violations -/

/-- What can be wrong with an event at an index, after the events of some names. -/
@[mk_iff]
inductive EventSetting.Violates (index : Nat) (before : List String) (event : EventSetting) :
    SettingsFault → Prop where
  | blank (blank : ∀ character ∈ event.name.toList, Text.isBlank character = true) :
      Violates index before event (.blankEvent index)
  | repeated (known : event.name ∈ before) :
      Violates index before event (.repeatedEvent index event.name)
  | untouching (nothing : event.touches = []) : Violates index before event (.emptyTouches index)
  | badTouch (valid rest : List String) (name : String)
      (touches : event.touches = valid ++ name :: rest)
      (first : ∀ other ∈ valid, Settings.isFunctionName other = true)
      (bad : Settings.isFunctionName name = false) :
      Violates index before event (.badTouch index name)

/-- What can be wrong with a sensor at an index, after the sensors of some names. -/
@[mk_iff]
inductive SensorSetting.Violates (index : Nat) (before : List String) (sensor : SensorSetting) :
    SettingsFault → Prop where
  | badName (bad : Settings.isFunctionName sensor.name = false) :
      Violates index before sensor (.badSensor index sensor.name)
  | repeated (known : sensor.name ∈ before) :
      Violates index before sensor (.repeatedSensor index sensor.name)
  | badStrategy (push : sensor.strategy ≠ "push") (poll : sensor.strategy ≠ "poll") :
      Violates index before sensor (.badStrategy index sensor.strategy)

namespace Settings

/-- What can be wrong with settings. -/
@[mk_iff]
inductive Violates (settings : Settings) : SettingsFault → Prop where
  | level (unknown : settings.logLevel ∉ levels) :
      Violates settings (.unknownLevel settings.logLevel)
  | event {fault : SettingsFault} (index : Nat) (event : EventSetting)
      (listed : settings.events[index]? = some event)
      (wrong : event.Violates index ((settings.events.take index).map EventSetting.name) fault) :
      Violates settings fault
  | sensor {fault : SettingsFault} (index : Nat) (sensor : SensorSetting)
      (listed : settings.sensors[index]? = some sensor)
      (wrong : sensor.Violates index ((settings.sensors.take index).map SensorSetting.name)
        fault) :
      Violates settings fault

end Settings

/-! ## The order of violations -/

namespace SettingsFault

/-- The place of a fault: its group, the index of its event or sensor, and the check. -/
def place : SettingsFault → ℕ ×ₗ ℕ ×ₗ ℕ
  | unknownLevel _ => toLex (0, toLex (0, 0))
  | blankEvent index => toLex (1, toLex (index, 0))
  | repeatedEvent index _ => toLex (1, toLex (index, 1))
  | emptyTouches index => toLex (1, toLex (index, 2))
  | badTouch index _ => toLex (1, toLex (index, 3))
  | badSensor index _ => toLex (2, toLex (index, 0))
  | repeatedSensor index _ => toLex (2, toLex (index, 1))
  | badStrategy index _ => toLex (2, toLex (index, 2))

theorem place_lt_of_check {group index first second : ℕ} (ordered : first < second) :
    toLex (group, toLex (index, first)) < toLex (group, toLex (index, second)) :=
  Prod.Lex.toLex_lt_toLex.mpr (.inr ⟨rfl, Prod.Lex.toLex_lt_toLex.mpr (.inr ⟨rfl, ordered⟩)⟩)

theorem place_lt_of_index {group earlier later : ℕ} (ordered : earlier < later)
    (first second : ℕ) :
    toLex (group, toLex (earlier, first)) < toLex (group, toLex (later, second)) :=
  Prod.Lex.toLex_lt_toLex.mpr (.inr ⟨rfl, Prod.Lex.toLex_lt_toLex.mpr (.inl ordered)⟩)

theorem place_lt_of_group {earlier later : ℕ} (ordered : earlier < later) (first second : ℕ ×ₗ ℕ) :
    toLex (earlier, first) < toLex (later, second) :=
  Prod.Lex.toLex_lt_toLex.mpr (.inl ordered)

/-- An answer is the first of the faults that are there; no answer says that there are none. -/
def IsFirst (Wrong : SettingsFault → Prop) : Option SettingsFault → Prop
  | none => ∀ fault, ¬Wrong fault
  | some fault => Wrong fault ∧ ∀ other, Wrong other → other ≠ fault → fault.place < other.place

namespace IsFirst

variable {Wrong Later : SettingsFault → Prop} {told later : Option SettingsFault}

theorem congr (first : IsFirst Wrong told) (same : ∀ fault, Wrong fault ↔ Later fault) :
    IsFirst Later told :=
  funext (fun fault => propext (same fault)) ▸ first

/-- The faults of one kind come before those of another. -/
theorem or (first : IsFirst Wrong told) (second : IsFirst Later later)
    (ordered : ∀ fault other, Wrong fault → Later other → fault.place < other.place) :
    IsFirst (fun fault => Wrong fault ∨ Later fault) (told.or later) := by
  cases told with
  | none =>
      refine second.congr fun fault => ?_
      exact (or_iff_right (first fault)).symm
  | some fault =>
      refine ⟨.inl first.1, fun other wrong differ => ?_⟩
      rcases wrong with now | later
      · exact first.2 other now differ
      · exact ordered fault other first.1 later

/-- A single check, and others after it. -/
theorem check {condition : Prop} [Decidable condition] (fault : SettingsFault)
    (second : IsFirst Later later) (ordered : ∀ other, Later other → fault.place < other.place) :
    IsFirst (fun other => condition ∧ other = fault ∨ Later other)
      (if condition then some fault else later) := by
  split
  · next holds =>
    refine ⟨.inl ⟨holds, rfl⟩, fun other wrong differ => ?_⟩
    rcases wrong with ⟨-, same⟩ | later
    · exact absurd same differ
    · exact ordered other later
  · next fails =>
    refine second.congr fun other => ?_
    exact (or_iff_right fun wrong => fails wrong.1).symm

/-- There is at most one first fault. -/
theorem eq_of_first {fault : SettingsFault} (first : IsFirst Wrong told)
    (other : IsFirst Wrong (some fault)) : told = some fault := by
  cases told with
  | none => exact absurd other.1 (first fault)
  | some found =>
      by_contra differ
      have differ : found ≠ fault := fun same => differ (congrArg some same)
      exact lt_asymm (first.2 fault other.1 differ.symm) (other.2 found first.1 differ)

end IsFirst

end SettingsFault

open SettingsFault (IsFirst)

theorem Strategy.ofWord?_eq_none_iff {word : String} :
    ofWord? word = none ↔ word ≠ "push" ∧ word ≠ "poll" := by
  rw [ofWord?]
  split
  · next push => simp [push]
  · split
    · next poll => simp [poll]
    · next push poll => simp [push, poll]

/-! ## One event and one sensor -/

theorem EventSetting.Violates.place {index : Nat} {before : List String} {event : EventSetting}
    {fault : SettingsFault} (wrong : event.Violates index before fault) :
    ∃ check, fault.place = toLex (1, toLex (index, check)) := by
  cases wrong <;> exact ⟨_, rfl⟩

theorem SensorSetting.Violates.place {index : Nat} {before : List String} {sensor : SensorSetting}
    {fault : SettingsFault} (wrong : sensor.Violates index before fault) :
    ∃ check, fault.place = toLex (2, toLex (index, check)) := by
  cases wrong <;> exact ⟨_, rfl⟩

/-- The first touch of an event that is no function name. -/
theorem EventSetting.find?_touches_iff {event : EventSetting} {name : String} :
    event.touches.find? (fun name => !Settings.isFunctionName name) = some name ↔
      Settings.isFunctionName name = false ∧ ∃ valid rest,
        event.touches = valid ++ name :: rest ∧
          ∀ other ∈ valid, Settings.isFunctionName other = true := by
  rw [List.find?_eq_some_iff_append]
  simp

/-- An event without violations. -/
theorem EventSetting.faultless_iff {index : Nat} {before : List String} {event : EventSetting} :
    (∀ fault, ¬event.Violates index before fault) ↔
      (∃ character ∈ event.name.toList, Text.isBlank character = false) ∧
        event.name ∉ before ∧ event.touches ≠ [] ∧
          ∀ name ∈ event.touches, Settings.isFunctionName name = true := by
  constructor
  · intro none
    refine ⟨?visible, fun known => none _ (.repeated known),
      fun nothing => none _ (.untouching nothing), ?touches⟩
    case visible =>
      by_contra blank
      refine none _ (.blank fun character inside => ?_)
      exact eq_true_of_ne_false fun visible => blank ⟨character, inside, visible⟩
    case touches =>
      cases found : event.touches.find? fun name => !Settings.isFunctionName name with
      | none => simpa using List.find?_eq_none.mp found
      | some name =>
          rcases find?_touches_iff.mp found with ⟨bad, valid, rest, touches, first⟩
          exact absurd (.badTouch valid rest name touches first bad) (none _)
  · rintro ⟨⟨character, inside, visible⟩, new, touching, touches⟩ fault wrong
    cases wrong with
    | blank blank => exact absurd (blank character inside) (by simp [visible])
    | repeated known => exact new known
    | untouching nothing => exact touching nothing
    | badTouch valid rest name split _ bad =>
        exact absurd (touches name (by simp [split])) (by simp [bad])

/-- A sensor without violations. -/
theorem SensorSetting.faultless_iff {index : Nat} {before : List String} {sensor : SensorSetting} :
    (∀ fault, ¬sensor.Violates index before fault) ↔
      Settings.isFunctionName sensor.name = true ∧ sensor.name ∉ before ∧
        (sensor.strategy = "push" ∨ sensor.strategy = "poll") := by
  constructor
  · intro none
    refine ⟨?valid, fun known => none _ (.repeated known), ?strategy⟩
    case valid => exact eq_true_of_ne_false fun bad => none _ (.badName bad)
    case strategy =>
      by_contra other
      rw [not_or] at other
      exact none _ (.badStrategy other.1 other.2)
  · rintro ⟨valid, new, word⟩ fault wrong
    cases wrong with
    | badName bad => exact absurd valid (by simp [bad])
    | repeated known => exact new known
    | badStrategy push poll => exact word.elim push poll

namespace Settings

theorem badTouch_isFirst (index : Nat) (event : EventSetting) :
    IsFirst
      (fun fault => ∃ valid rest name, event.touches = valid ++ name :: rest ∧
        (∀ other ∈ valid, isFunctionName other = true) ∧
          isFunctionName name = false ∧ fault = .badTouch index name)
      ((event.touches.find? fun name => !isFunctionName name).map (.badTouch index)) := by
  cases found : event.touches.find? fun name => !isFunctionName name with
  | none =>
      rintro fault ⟨valid, rest, name, touches, first, bad, -⟩
      cases found.symm.trans
        (EventSetting.find?_touches_iff.mpr ⟨bad, valid, rest, touches, first⟩)
  | some name =>
      rcases EventSetting.find?_touches_iff.mp found with ⟨bad, valid, rest, touches, first⟩
      refine ⟨⟨valid, rest, name, touches, first, bad, rfl⟩, ?_⟩
      rintro _ ⟨valid', rest', name', touches', first', bad', rfl⟩ differ
      cases found.symm.trans
        (EventSetting.find?_touches_iff.mpr ⟨bad', valid', rest', touches', first'⟩)
      exact absurd rfl differ

theorem eventFault?_isFirst (index : Nat) (before : List String) (event : EventSetting) :
    IsFirst (event.Violates index before) (eventFault? index before event) := by
  -- The checks are put together from the last one on: each comes before all that follow it.
  rw [eventFault?]
  refine ((IsFirst.check _ (IsFirst.check _ (IsFirst.check _ (badTouch_isFirst index event) ?_)
    ?_) ?_).congr fun fault => ?_)
  · rintro other ⟨_, _, _, -, -, -, rfl⟩
    exact SettingsFault.place_lt_of_check (by decide)
  · rintro other (⟨-, rfl⟩ | ⟨_, _, _, -, -, -, rfl⟩) <;>
      exact SettingsFault.place_lt_of_check (by decide)
  · rintro other (⟨-, rfl⟩ | ⟨-, rfl⟩ | ⟨_, _, _, -, -, -, rfl⟩) <;>
      exact SettingsFault.place_lt_of_check (by decide)
  · rw [EventSetting.violates_iff, Text.trim_eq_empty_iff]

theorem sensorFault?_isFirst (index : Nat) (before : List String) (sensor : SensorSetting) :
    IsFirst (sensor.Violates index before) (sensorFault? index before sensor) := by
  have nothing : IsFirst (fun _ => False) none := fun _ => id
  rw [sensorFault?]
  refine ((IsFirst.check _ (IsFirst.check _ (IsFirst.check _ nothing ?_) ?_) ?_).congr
    fun fault => ?_)
  · exact nofun
  · rintro other (⟨-, rfl⟩ | impossible)
    · exact SettingsFault.place_lt_of_check (by decide)
    · cases impossible
  · rintro other (⟨-, rfl⟩ | ⟨-, rfl⟩ | impossible)
    · exact SettingsFault.place_lt_of_check (by decide)
    · exact SettingsFault.place_lt_of_check (by decide)
    · cases impossible
  · rw [SensorSetting.violates_iff, Strategy.ofWord?_eq_none_iff, Bool.not_eq_true', or_false,
      and_assoc]

/-! ## Rows of events or sensors -/

section Row

variable {Item : Type} (name : Item → String)
  {fault? : Nat → List String → Item → Option SettingsFault}
  {Wrong : Nat → List String → Item → SettingsFault → Prop}

/-- Something is wrong with one of some items, at an index or after it. -/
def WrongFrom (Wrong : Nat → List String → Item → SettingsFault → Prop) (items : List Item)
    (start : Nat) (fault : SettingsFault) : Prop :=
  ∃ index item, start ≤ index ∧ items[index]? = some item ∧
    Wrong index ((items.take index).map name) item fault

theorem wrongFrom_iff (done rest : List Item) (item : Item) (fault : SettingsFault) :
    WrongFrom name Wrong (done ++ item :: rest) done.length fault ↔
      Wrong done.length (done.map name) item fault ∨
        WrongFrom name Wrong (done ++ item :: rest) (done.length + 1) fault := by
  constructor
  · rintro ⟨index, found, late, listed, wrong⟩
    rcases Nat.eq_or_lt_of_le late with rfl | later
    · rw [List.getElem?_append_right le_rfl, Nat.sub_self] at listed
      cases listed
      rw [List.take_left] at wrong
      exact .inl wrong
    · exact .inr ⟨index, found, later, listed, wrong⟩
  · rintro (wrong | ⟨index, found, late, listed, wrong⟩)
    · refine ⟨done.length, item, le_rfl, ?_, by rwa [List.take_left]⟩
      rw [List.getElem?_append_right le_rfl, Nat.sub_self]
      rfl
    · exact ⟨index, found, Nat.le_of_succ_le late, listed, wrong⟩

/--
Looking at items one by one tells the first thing that is wrong, if looking at one item does.  The
induction is on the items that are left, for all that were looked at before.
-/
theorem firstFault?_isFirst {group : ℕ}
    (each : ∀ index before item, IsFirst (Wrong index before item) (fault? index before item))
    (placed : ∀ {index before item fault}, Wrong index before item fault →
      ∃ check, fault.place = toLex (group, toLex (index, check)))
    (done rest : List Item) :
    IsFirst (WrongFrom name Wrong (done ++ rest) done.length)
      (firstFault? name fault? (done.map name) rest) := by
  induction rest generalizing done with
  | nil =>
      rintro fault ⟨index, item, late, listed, -⟩
      rw [List.append_nil, List.getElem?_eq_none late] at listed
      cases listed
  | cons item rest induction =>
      have step : firstFault? name fault? (done.map name) (item :: rest) =
          (fault? done.length (done.map name) item).or
            (firstFault? name fault? ((done ++ [item]).map name) rest) := by
        rw [firstFault?, List.length_map, List.map_append]
        cases fault? done.length (done.map name) item <;> rfl
      -- The item joins those that were looked at, which moves the rest by one index.
      have others := induction (done ++ [item])
      rw [List.append_assoc, List.length_append] at others
      rw [step]
      refine ((each _ _ item).or others ?_).congr fun fault =>
        (wrongFrom_iff name done rest item fault).symm
      rintro fault other now ⟨index, found, late, -, later⟩
      rcases placed now with ⟨first, place⟩
      rcases placed later with ⟨second, place'⟩
      rw [place, place']
      exact SettingsFault.place_lt_of_index late first second

end Row

/-! ## All of the settings -/

theorem fault?_isFirst (settings : Settings) : IsFirst settings.Violates settings.fault? := by
  have events := firstFault?_isFirst EventSetting.name eventFault?_isFirst
    EventSetting.Violates.place [] settings.events
  have sensors := firstFault?_isFirst SensorSetting.name sensorFault?_isFirst
    SensorSetting.Violates.place [] settings.sensors
  rw [fault?]
  refine ((IsFirst.check _ (events.or sensors ?_) ?_).congr fun fault => ?_)
  · rintro fault other ⟨_, _, _, _, now⟩ ⟨_, _, _, _, later⟩
    rcases now.place with ⟨first, place⟩
    rcases later.place with ⟨second, place'⟩
    rw [place, place']
    exact SettingsFault.place_lt_of_group (by decide) _ _
  · rintro other (⟨_, _, _, _, wrong⟩ | ⟨_, _, _, _, wrong⟩)
    all_goals
      rcases wrong.place with ⟨check, place⟩
      rw [place]
      exact SettingsFault.place_lt_of_group (by decide) _ _
  · rw [violates_iff]
    simp only [WrongFrom, List.length_nil, Nat.zero_le, true_and, List.nil_append]

/-- Every word in some settings means something, and nothing is said twice. -/
structure Valid (settings : Settings) : Prop where
  level : settings.logLevel ∈ levels
  eventNames : ∀ event ∈ settings.events,
    ∃ character ∈ event.name.toList, Text.isBlank character = false
  eventsOnce : (settings.events.map EventSetting.name).Nodup
  touching : ∀ event ∈ settings.events, event.touches ≠ []
  touches : ∀ event ∈ settings.events, ∀ name ∈ event.touches, isFunctionName name = true
  sensorNames : ∀ sensor ∈ settings.sensors, isFunctionName sensor.name = true
  sensorsOnce : (settings.sensors.map SensorSetting.name).Nodup
  strategies : ∀ sensor ∈ settings.sensors, sensor.strategy = "push" ∨ sensor.strategy = "poll"

/-- Names occur once if none of them occurs among those before it. -/
theorem nodup_iff_not_mem_take {Item : Type} (name : Item → String) (items : List Item) :
    (items.map name).Nodup ↔
      ∀ index item, items[index]? = some item → name item ∉ (items.take index).map name := by
  rw [List.nodup_iff_getElem?_ne_getElem?]
  simp only [List.map_take]
  constructor
  · intro apart index item listed known
    rcases List.mem_take_iff_getElem.mp known with ⟨earlier, bound, same⟩
    rcases Nat.lt_min.mp bound with ⟨ordered, inside⟩
    have found : (items.map name)[index]? = some (name item) := by
      rw [List.getElem?_map, listed]
      rfl
    refine apart earlier index ordered (List.getElem?_eq_some_iff.mp found).1 ?_
    rw [found, List.getElem?_eq_getElem inside, same]
  · intro once earlier later ordered inside same
    rw [List.length_map] at inside
    refine once later _ (List.getElem?_eq_getElem inside) (List.mem_of_getElem? (i := earlier) ?_)
    rw [List.getElem?_take_of_lt ordered, same, List.getElem?_map, List.getElem?_eq_getElem inside]
    rfl

theorem valid_iff (settings : Settings) :
    settings.Valid ↔ ∀ fault, ¬settings.Violates fault := by
  constructor
  · rintro valid fault (unknown | ⟨index, event, listed, wrong⟩ | ⟨index, sensor, listed, wrong⟩)
    · exact unknown valid.level
    · have member := List.mem_of_getElem? listed
      exact EventSetting.faultless_iff.mpr
        ⟨valid.eventNames event member,
          (nodup_iff_not_mem_take _ _).mp valid.eventsOnce index event listed,
          valid.touching event member, valid.touches event member⟩ fault wrong
    · have member := List.mem_of_getElem? listed
      exact SensorSetting.faultless_iff.mpr
        ⟨valid.sensorNames sensor member,
          (nodup_iff_not_mem_take _ _).mp valid.sensorsOnce index sensor listed,
          valid.strategies sensor member⟩ fault wrong
  · intro faultless
    have events (index : Nat) (event : EventSetting)
        (listed : settings.events[index]? = some event) :=
      EventSetting.faultless_iff.mp fun fault wrong =>
        faultless fault (.event index event listed wrong)
    have sensors (index : Nat) (sensor : SensorSetting)
        (listed : settings.sensors[index]? = some sensor) :=
      SensorSetting.faultless_iff.mp fun fault wrong =>
        faultless fault (.sensor index sensor listed wrong)
    constructor
    case level =>
      by_contra unknown
      exact faultless _ (.level unknown)
    case eventsOnce =>
      exact (nodup_iff_not_mem_take _ _).mpr fun index event listed => (events _ _ listed).2.1
    case sensorsOnce =>
      exact (nodup_iff_not_mem_take _ _).mpr fun index sensor listed => (sensors _ _ listed).2.1
    case eventNames | touching | touches =>
      intro event member
      rcases List.mem_iff_getElem?.mp member with ⟨index, listed⟩
      rcases events index event listed with ⟨visible, -, touching, touches⟩
      assumption
    case sensorNames | strategies =>
      intro sensor member
      rcases List.mem_iff_getElem?.mp member with ⟨index, listed⟩
      rcases sensors index sensor listed with ⟨name, -, strategy⟩
      assumption

theorem validate_eq_ok_iff (settings : Settings) :
    settings.validate = .ok () ↔ settings.Valid := by
  have first := settings.fault?_isFirst
  rw [valid_iff, validate]
  cases told : settings.fault? with
  | none =>
      rw [told] at first
      exact iff_of_true rfl first
  | some fault =>
      rw [told] at first
      exact iff_of_false nofun fun none => none fault first.1

theorem validate_eq_error_iff {settings : Settings} {fault : SettingsFault} :
    settings.validate = .error fault ↔
      settings.Violates fault ∧
        ∀ other, settings.Violates other → other ≠ fault → fault.place < other.place := by
  have first := settings.fault?_isFirst
  have told : settings.validate = .error fault ↔ settings.fault? = some fault := by
    rw [validate]
    cases settings.fault? <;> simp
  rw [told]
  constructor
  · intro found
    rw [found] at first
    exact first
  · exact first.eq_of_first

end Settings

end Vigil
