import Mathlib.Data.List.Find
import Mathlib.Data.List.Sort
import Mathlib.Data.String.Basic
import Vigil.Proofs.Context.Checking
import Vigil.Settings

/-!
# Definitions are permanent

A registry is a list of definitions that grows at its end.  A definition joins the list if its name
is an identifier and no definition of that name is in it, and no definition ever leaves the list or
is replaced.  `Registry.definitions_registerAll` says this of any number of attempts; what is found
under a name, and which names there are, is read off the list.

The built-in functions are eight such attempts, of which the first that fails is the last.
-/

namespace Vigil

variable {Code : Type}

namespace Registry

variable {registry : Registry Code}

/-! ## The definitions of a registry -/

/-- All definitions, in the order in which they were registered. -/
def definitions (registry : Registry Code) : List (Definition Code) :=
  registry.functions.entries.map Prod.snd

theorem keys_eq (registry : Registry Code) :
    registry.functions.keys = registry.definitions.map Definition.name := by
  rw [Table.keys, definitions, List.map_map]
  exact List.map_congr_left fun entry member => (registry.named entry member).symm

theorem nodup_names_definitions (registry : Registry Code) :
    (registry.definitions.map Definition.name).Nodup :=
  registry.keys_eq ▸ registry.functions.distinct

theorem lookup?_eq_find? (registry : Registry Code) (name : String) :
    registry.lookup? name = registry.definitions.find? (·.name = name) := by
  rw [lookup?, Table.get?, definitions, List.find?_map]
  refine congrArg (Option.map Prod.snd) (List.find?_congr fun entry member => ?_)
  rw [Function.comp_apply, registry.named entry member]

theorem contains_iff {name : String} :
    registry.contains name = true ↔ name ∈ registry.definitions.map Definition.name := by
  rw [← keys_eq, Table.mem_keys, contains, Option.isSome_iff_exists]
  rfl

/-- A new definition comes last. -/
theorem definitions_add {definition : Definition Code}
    (new : registry.contains definition.name = false) :
    (registry.add definition).definitions = registry.definitions ++ [definition] := by
  rw [definitions, add, Table.entries_put_of_absent (contains_eq_false.mp new), List.map_append]
  rfl

/-! ## The names of a registry -/

theorem mem_names {name : String} : name ∈ registry.names ↔ registry.contains name = true := by
  rw [names, List.mem_mergeSort, keys_eq, contains_iff]

theorem length_names (registry : Registry Code) : registry.names.length = registry.size := by
  rw [names, List.length_mergeSort, Table.keys, List.length_map]
  rfl

theorem names_increasing (registry : Registry Code) : registry.names.Pairwise (· < ·) :=
  (List.sortedLT_iff_nodup_and_sortedLE.mpr
    ⟨registry.functions.distinct.mergeSort, List.sortedLE_mergeSort⟩).pairwise

/-! ## Attempts to register -/

/-- The registry with some definitions, each under its name. -/
def addAll (registry : Registry Code) (definitions : List (Definition Code)) : Registry Code :=
  definitions.foldl add registry

theorem addAll_append (registry : Registry Code) (first second : List (Definition Code)) :
    registry.addAll (first ++ second) = (registry.addAll first).addAll second :=
  List.foldl_append

theorem contains_add_ne {definition : Definition Code} {name : String}
    (differ : name ≠ definition.name) :
    (registry.add definition).contains name = registry.contains name := by
  rw [contains, lookup?_add_ne differ, contains]

theorem contains_addAll_eq_false {definitions : List (Definition Code)} {name : String}
    (absent : registry.contains name = false) (other : name ∉ definitions.map Definition.name) :
    (registry.addAll definitions).contains name = false := by
  induction definitions generalizing registry with
  | nil => exact absent
  | cons definition rest induction =>
      rw [List.map_cons, List.mem_cons, not_or] at other
      exact induction ((contains_add_ne other.1).trans absent) other.2

/-- The definitions among some that are registered one by one, up to the first that cannot be. -/
def accepted (registry : Registry Code) : List (Definition Code) → List (Definition Code)
  | [] => []
  | definition :: rest =>
    match registry.register definition with
    | .ok extended => definition :: extended.accepted rest
    | .error _ => []

theorem definitions_registerAll (registry : Registry Code) (offered : List (Definition Code)) :
    (registry.registerAll offered).1.definitions =
      registry.definitions ++ registry.accepted offered := by
  induction offered generalizing registry with
  | nil => exact (List.append_nil _).symm
  | cons definition rest induction =>
      rw [registerAll, accepted]
      cases tried : registry.register definition with
      | error fault => exact (List.append_nil _).symm
      | ok extended =>
          rcases register_eq_ok_iff.mp tried with ⟨-, new, rfl⟩
          refine (induction _).trans ?_
          rw [definitions_add new, List.append_assoc]
          rfl

theorem isIdentifier_of_mem_accepted {offered : List (Definition Code)}
    {definition : Definition Code} (member : definition ∈ registry.accepted offered) :
    Name.isIdentifier definition.name = true := by
  induction offered generalizing registry with
  | nil => cases member
  | cons first rest induction =>
      rw [accepted] at member
      cases tried : registry.register first with
      | error fault =>
          rw [tried] at member
          cases member
      | ok extended =>
          rw [tried] at member
          rcases List.mem_cons.mp member with rfl | later
          · exact (register_eq_ok_iff.mp tried).1
          · exact induction later

/-- Whatever comes of it, only what is accepted is added. -/
theorem registerAll_fst (registry : Registry Code) (offered : List (Definition Code)) :
    (registry.registerAll offered).1 = registry.addAll (registry.accepted offered) := by
  induction offered generalizing registry with
  | nil => rfl
  | cons definition rest induction =>
      rw [registerAll, accepted]
      cases tried : registry.register definition with
      | error fault => rfl
      | ok extended =>
          rcases register_eq_ok_iff.mp tried with ⟨-, -, rfl⟩
          exact induction _

/-- Different identifiers are accepted up to the first that is taken already. -/
theorem accepted_cases {offered : List (Definition Code)}
    (valid : ∀ definition ∈ offered, Name.isIdentifier definition.name = true)
    (distinct : (offered.map Definition.name).Nodup) :
    ((∀ definition ∈ offered, registry.contains definition.name = false) ∧
        registry.accepted offered = offered ∧ (registry.registerAll offered).2 = .ok ()) ∨
      ∃ before taken rest, offered = before ++ taken :: rest ∧
        (∀ definition ∈ before, registry.contains definition.name = false) ∧
        registry.contains taken.name = true ∧ registry.accepted offered = before ∧
        (registry.registerAll offered).2 = .error (.duplicate taken.name) := by
  induction offered generalizing registry with
  | nil => exact .inl ⟨nofun, rfl, rfl⟩
  | cons definition rest induction =>
      rcases List.forall_mem_cons.mp valid with ⟨firstValid, othersValid⟩
      rcases List.nodup_cons.mp distinct with ⟨once, othersDistinct⟩
      cases present : registry.contains definition.name with
      | true =>
          have refused : registry.register definition = .error (.duplicate definition.name) := by
            rw [register, firstValid, present]
            rfl
          rw [registerAll, accepted, refused]
          exact .inr ⟨[], definition, rest, rfl, nofun, present, rfl, rfl⟩
      | false =>
          -- The names differ, so the others are as free behind the first one as they were before.
          have untouched : ∀ other ∈ rest,
              (registry.add definition).contains other.name = registry.contains other.name := by
            intro other member
            exact contains_add_ne fun same => once (same ▸ List.mem_map_of_mem member)
          have joined := register_eq_ok_iff.mpr ⟨firstValid, present, rfl⟩
          rw [registerAll, accepted, joined]
          rcases induction othersValid othersDistinct with
            ⟨new, all, done⟩ | ⟨before, taken, after, rfl, new, known, all, stopped⟩
          · refine .inl ⟨List.forall_mem_cons.mpr ⟨present, fun other member => ?_⟩,
              congrArg _ all, done⟩
            exact (untouched other member).symm.trans (new other member)
          · have among : taken ∈ before ++ taken :: after := by simp
            refine .inr ⟨definition :: before, taken, after, rfl,
              List.forall_mem_cons.mpr ⟨present, fun other member => ?_⟩,
              (untouched taken among).symm.trans known, congrArg _ all, stopped⟩
            exact (untouched other (List.mem_append_left _ member)).symm.trans (new other member)

/-- Functions are accepted if their names are identifiers that occur once and are free. -/
theorem registerAll_of_distinct {offered : List (Definition Code)}
    (valid : ∀ definition ∈ offered, Name.isIdentifier definition.name = true)
    (distinct : (offered.map Definition.name).Nodup)
    (new : ∀ definition ∈ offered, registry.contains definition.name = false) :
    registry.registerAll offered = (registry.addAll offered, .ok ()) := by
  rcases accepted_cases valid distinct with
    ⟨-, all, done⟩ | ⟨before, taken, after, rfl, -, known, -⟩
  · refine Prod.ext ?_ done
    rw [registerAll_fst, all]
  · rw [new taken (by simp)] at known
    cases known

/-! ## The built-in functions -/

theorem mem_builtins (builtin : Builtin) : builtin ∈ Builtin.all := by
  cases builtin <;> decide

theorem isIdentifier_builtin (builtin : Builtin) : Name.isIdentifier builtin.name = true := by
  cases builtin <;> decide +kernel

theorem isIdentifier_of_mem_builtins {definition : Definition Code}
    (member : definition ∈ Builtin.all.map Definition.ofBuiltin) :
    Name.isIdentifier definition.name = true := by
  rcases List.mem_map.mp member with ⟨builtin, -, rfl⟩
  exact isIdentifier_builtin builtin

theorem nodup_names_builtins :
    ((Builtin.all.map Definition.ofBuiltin).map (@Definition.name Code)).Nodup := by
  rw [List.map_map]
  exact (by decide : (Builtin.all.map Builtin.name).Nodup)

/-- An empty registry takes in all built-in functions. -/
theorem registerBuiltins_empty :
    (empty : Registry Code).registerBuiltins =
      (empty.addAll (Builtin.all.map .ofBuiltin), .ok ()) :=
  registerAll_of_distinct (fun _ => isIdentifier_of_mem_builtins) nodup_names_builtins
    fun _ _ => rfl

theorem registerBuiltins_cases (registry : Registry Code) :
    ((∀ builtin : Builtin, registry.contains builtin.name = false) ∧
        registry.registerBuiltins.1.definitions =
          registry.definitions ++ Builtin.all.map .ofBuiltin ∧
        registry.registerBuiltins.2 = .ok ()) ∨
      ∃ before taken after, Builtin.all = before ++ taken :: after ∧
        (∀ builtin ∈ before, registry.contains builtin.name = false) ∧
        registry.contains taken.name = true ∧
        registry.registerBuiltins.1.definitions =
          registry.definitions ++ before.map .ofBuiltin ∧
        registry.registerBuiltins.2 = .error (.duplicate taken.name) := by
  rw [registerBuiltins, definitions_registerAll]
  rcases registry.accepted_cases (fun _ => isIdentifier_of_mem_builtins) nodup_names_builtins with
    ⟨new, all, done⟩ | ⟨before, taken, after, split, new, known, all, stopped⟩
  · refine .inl ⟨fun builtin => ?_, congrArg _ all, done⟩
    exact new _ (List.mem_map_of_mem (mem_builtins builtin))
  · rcases List.map_eq_append_iff.mp split with ⟨early, others, builtins, rfl, rest⟩
    rcases List.map_eq_cons_iff.mp rest with ⟨first, late, rfl, rfl, rfl⟩
    refine .inr ⟨early, first, late, builtins, fun builtin member => ?_, known, congrArg _ all,
      stopped⟩
    exact new _ (List.mem_map_of_mem member)

/-! ## Histories -/

/-- What can be asked of a registry. -/
inductive Request (Code : Type) where
  | register (definition : Definition Code)
  | registerBuiltins

/-- The definitions that a request offers, in order. -/
def Request.definitions : Request Code → List (Definition Code)
  | register definition => [definition]
  | registerBuiltins => Builtin.all.map .ofBuiltin

/-- Carry out a request. -/
def perform (registry : Registry Code) : Request Code → Registry Code × Except RegistryError Unit
  | .register definition =>
    match registry.register definition with
    | .ok extended => (extended, .ok ())
    | .error fault => (registry, .error fault)
  | .registerBuiltins => registry.registerBuiltins

theorem perform_eq (registry : Registry Code) (request : Request Code) :
    registry.perform request = registry.registerAll request.definitions := by
  cases request with
  | register definition =>
      rw [perform, Request.definitions, registerAll]
      cases registry.register definition <;> rfl
  | registerBuiltins => rfl

/-- The registry after some requests. -/
def afterAll (registry : Registry Code) (requests : List (Request Code)) : Registry Code :=
  requests.foldl (fun registry request => (registry.perform request).1) registry

/-- The definitions that are registered by some requests, in the order of their registration. -/
def acceptedOf (registry : Registry Code) : List (Request Code) → List (Definition Code)
  | [] => []
  | request :: rest =>
    registry.accepted request.definitions ++ (registry.perform request).1.acceptedOf rest

theorem afterAll_append (registry : Registry Code) (requests later : List (Request Code)) :
    registry.afterAll (requests ++ later) = (registry.afterAll requests).afterAll later :=
  List.foldl_append

theorem definitions_afterAll (registry : Registry Code) (requests : List (Request Code)) :
    (registry.afterAll requests).definitions =
      registry.definitions ++ registry.acceptedOf requests := by
  induction requests generalizing registry with
  | nil => exact (List.append_nil _).symm
  | cons request rest induction =>
      have now : (registry.perform request).1.definitions =
          registry.definitions ++ registry.accepted request.definitions := by
        rw [perform_eq, definitions_registerAll]
      rw [acceptedOf, ← List.append_assoc, ← now]
      exact induction _

theorem extends_afterAll (registry : Registry Code) (requests : List (Request Code)) :
    registry.Extends (registry.afterAll requests) := by
  induction requests generalizing registry with
  | nil => exact .refl registry
  | cons request rest induction =>
      have step : registry.Extends (registry.perform request).1 :=
        perform_eq registry request ▸ registry.extends_registerAll request.definitions
      exact step.trans (induction _)

theorem isIdentifier_of_mem_acceptedOf {requests : List (Request Code)}
    {definition : Definition Code} (member : definition ∈ registry.acceptedOf requests) :
    Name.isIdentifier definition.name = true := by
  induction requests generalizing registry with
  | nil => cases member
  | cons request rest induction =>
      rcases List.mem_append.mp member with now | later
      · exact isIdentifier_of_mem_accepted now
      · exact induction later

/-- The three outcomes of a request for a single definition. -/
theorem perform_register_cases (registry : Registry Code) (definition : Definition Code) :
    let result := registry.perform (.register definition)
    (Name.isIdentifier definition.name = false ∧
        result = (registry, .error (.invalidName definition.name))) ∨
      (Name.isIdentifier definition.name = true ∧ registry.contains definition.name = true ∧
        result = (registry, .error (.duplicate definition.name))) ∨
      (Name.isIdentifier definition.name = true ∧ registry.contains definition.name = false ∧
        result.2 = .ok () ∧ result.1.definitions = registry.definitions ++ [definition]) := by
  cases valid : Name.isIdentifier definition.name with
  | false =>
      refine .inl ⟨rfl, ?_⟩
      rw [perform, register, valid]
      rfl
  | true =>
      cases present : registry.contains definition.name with
      | true =>
          refine .inr (.inl ⟨rfl, rfl, ?_⟩)
          rw [perform, register, valid, present]
          rfl
      | false =>
          have joined := register_eq_ok_iff.mpr ⟨valid, present, rfl⟩
          rw [perform, joined]
          exact .inr (.inr ⟨rfl, rfl, rfl, definitions_add present⟩)

/--
After any requests, a registry holds what they registered successfully, each name once, and it will
hold it after any further requests.  All of its names are identifiers, and they are listed in
ascending order.  A request that fails for a single definition changes nothing, and it fails for a
name that is no identifier before anything else is looked at.  The built-in functions are added all,
or up to the first whose name is taken.
-/
theorem definitions_are_permanent (requests : List (Request Code)) :
    let registry := (empty : Registry Code).afterAll requests
    let registered := (empty : Registry Code).acceptedOf requests
    (registry.definitions = registered ∧
      (registered.map Definition.name).Nodup ∧
      (∀ name, registry.lookup? name = registered.find? (·.name = name)) ∧
      ∀ later, registry.Extends (empty.afterAll (requests ++ later))) ∧
    (∀ name, registry.contains name = true → Name.isIdentifier name = true) ∧
    (registry.names.Pairwise (· < ·) ∧
      (∀ name, name ∈ registry.names ↔ registry.contains name = true) ∧
      registry.names.length = registry.size) ∧
    (∀ definition : Definition Code,
      let result := registry.perform (.register definition)
      (Name.isIdentifier definition.name = false ∧
          result = (registry, .error (.invalidName definition.name))) ∨
        (Name.isIdentifier definition.name = true ∧ registry.contains definition.name = true ∧
          result = (registry, .error (.duplicate definition.name))) ∨
        (Name.isIdentifier definition.name = true ∧ registry.contains definition.name = false ∧
          result.2 = .ok () ∧ result.1.definitions = registry.definitions ++ [definition])) ∧
    let result := registry.perform .registerBuiltins
    ((∀ builtin : Builtin, registry.contains builtin.name = false) ∧
        result.1.definitions = registry.definitions ++ Builtin.all.map .ofBuiltin ∧
        result.2 = .ok ()) ∨
      ∃ before taken after, Builtin.all = before ++ taken :: after ∧
        (∀ builtin ∈ before, registry.contains builtin.name = false) ∧
        registry.contains taken.name = true ∧
        result.1.definitions = registry.definitions ++ before.map .ofBuiltin ∧
        result.2 = .error (.duplicate taken.name) := by
  intro registry registered
  have grown : registry.definitions = registered := definitions_afterAll empty requests
  refine ⟨⟨grown, grown ▸ registry.nodup_names_definitions, ?found, ?kept⟩, ?valid,
    ⟨registry.names_increasing, fun name => mem_names, registry.length_names⟩,
    registry.perform_register_cases, registry.registerBuiltins_cases⟩
  case found =>
    intro name
    rw [lookup?_eq_find?, grown]
  case kept =>
    intro later
    rw [afterAll_append]
    exact registry.extends_afterAll later
  case valid =>
    intro name present
    rw [contains_iff, grown] at present
    rcases List.mem_map.mp present with ⟨definition, member, rfl⟩
    exact isIdentifier_of_mem_acceptedOf member

/-- Where `strLen` is taken, the three functions before it are added, and none after it. -/
example :
    let result := ((empty : Registry Unit).add ⟨"strLen", 0, .host ()⟩).registerBuiltins
    result.1.definitions.map Definition.name =
        ["strLen", "strContains", "strStartsWith", "strEndsWith"] ∧
      result.2 = .error (.duplicate "strLen") := by
  decide +kernel

end Registry

/-! ## New contexts -/

/-- Settings always make a context, in which nothing has happened yet but the report of it. -/
theorem Context.ofSettings_succeeds {host : Host} (settings : Settings) (data : host.Data) :
    ∃ fields,
      ofSettings settings data = .ok
        { (new settings.cacheCapacity settings.eventBindings settings.strategyTable data) with
          registry := Registry.empty.addAll
            (if settings.builtins then Builtin.all.map .ofBuiltin else [])
          journal := #[⟨.debug, "conditions context configured", fields⟩] } := by
  rw [ofSettings]
  cases settings.builtins with
  | false => exact ⟨_, rfl⟩
  | true =>
      rw [if_pos rfl, registerBuiltins, new, Registry.registerBuiltins_empty]
      exact ⟨_, rfl⟩

end Vigil
