import Vigil.Expr.Name
import Vigil.Sensor.Builtin
import Vigil.Table

/-!
# The registry of functions

The functions that expressions may call, by name. A function is built in or belongs to the
program that uses the library, whose code is of any type `Code`. A definition is put under its name
only where there is none yet: a name keeps the definition that it was first given.
-/

namespace Vigil

/-- What answers a call. -/
inductive Body (Code : Type) where
  | builtin (builtin : Builtin)
  | host (code : Code)

/-- A function that expressions may call. -/
structure Definition (Code : Type) where
  name : String
  arity : Nat
  body : Body Code

/-- A built-in function as a definition. -/
def Definition.ofBuiltin {Code : Type} (builtin : Builtin) : Definition Code where
  name := builtin.name
  arity := builtin.arity
  body := .builtin builtin

/-- How a definition is shown for inspection. -/
def Definition.inspect {Code : Type} (definition : Definition Code) : String :=
  "FunctionDef \x7b name: " ++ Text.quoted definition.name ++ ", arity: " ++
    toString definition.arity ++ ", .. \x7d"

/-- Why a function cannot be registered. -/
inductive RegistryError where
  | invalidName (name : String)
  | duplicate (name : String)
deriving DecidableEq, Repr

/-- The wording of a registration error. -/
def RegistryError.message : RegistryError → String
  | invalidName name => "invalid function name: " ++ Text.quoted name
  | duplicate name => "function already registered: " ++ name

/-- The registered functions, each under its own name. -/
structure Registry (Code : Type) where
  functions : Table String (Definition Code)
  named : ∀ entry ∈ functions.entries, entry.2.name = entry.1

namespace Registry

variable {Code : Type}

/-- A registry without functions. -/
def empty : Registry Code where
  functions := .empty
  named := by
    intro entry member
    cases member

/-- The definition of a name. -/
def lookup? (registry : Registry Code) (name : String) : Option (Definition Code) :=
  registry.functions.get? name

/-- Whether a name is registered. -/
def contains (registry : Registry Code) (name : String) : Bool :=
  (registry.lookup? name).isSome

/-- The number of registered functions. -/
def size (registry : Registry Code) : Nat :=
  registry.functions.size

/-- The registered names in ascending order. -/
def names (registry : Registry Code) : List String :=
  registry.functions.keys.mergeSort fun first second => first ≤ second

/-- The registry with a definition under its name, whatever was there before. -/
def add (registry : Registry Code) (definition : Definition Code) : Registry Code where
  functions := registry.functions.put definition.name definition
  named := by
    intro entry member
    rcases Table.mem_entries_put member with rfl | earlier
    · rfl
    · exact registry.named entry earlier

/-- Add a function whose name is an identifier that is not registered yet. -/
def register
    (registry : Registry Code)
    (definition : Definition Code) : Except RegistryError (Registry Code) :=
  if !Name.isIdentifier definition.name then
    .error (.invalidName definition.name)
  else if registry.contains definition.name then
    .error (.duplicate definition.name)
  else
    .ok (registry.add definition)

/-- Add functions one by one up to the first that cannot be added. -/
def registerAll (registry : Registry Code) :
    List (Definition Code) → Registry Code × Except RegistryError Unit
  | [] => (registry, .ok ())
  | definition :: rest =>
    match registry.register definition with
    | .ok extended => extended.registerAll rest
    | .error fault => (registry, .error fault)

/-- Add the built-in functions up to the first whose name is taken. -/
def registerBuiltins (registry : Registry Code) : Registry Code × Except RegistryError Unit :=
  registry.registerAll (Builtin.all.map Definition.ofBuiltin)

/-- How a registry is shown for inspection. -/
def inspect (registry : Registry Code) : String :=
  "FunctionRegistry \x7b functions: " ++ Text.quotedList registry.names ++ " \x7d"

/-! ## What is found -/

variable {registry : Registry Code}

@[simp]
theorem lookup?_empty (name : String) : (empty : Registry Code).lookup? name = none :=
  rfl

@[simp]
theorem lookup?_add_self (definition : Definition Code) :
    (registry.add definition).lookup? definition.name = some definition :=
  Table.get?_put_self registry.functions definition.name definition

theorem lookup?_add_ne {definition : Definition Code} {name : String}
    (differ : name ≠ definition.name) :
    (registry.add definition).lookup? name = registry.lookup? name :=
  Table.get?_put_ne registry.functions definition differ

theorem contains_eq_false {name : String} :
    registry.contains name = false ↔ registry.lookup? name = none := by
  rw [contains, Option.isSome_eq_false_iff, Option.isNone_iff_eq_none]

/-- A definition is found under its own name only. -/
theorem name_of_lookup? {name : String} {definition : Definition Code}
    (found : registry.lookup? name = some definition) : definition.name = name :=
  registry.named (name, definition) (Table.mem_entries_of_get? found)

/-- What is registered is put under its name, which is an identifier and was free. -/
theorem register_eq_ok_iff {definition : Definition Code} {extended : Registry Code} :
    registry.register definition = .ok extended ↔
      Name.isIdentifier definition.name = true ∧ registry.contains definition.name = false ∧
        extended = registry.add definition := by
  rw [register]
  cases Name.isIdentifier definition.name <;> cases registry.contains definition.name <;>
    simp [eq_comm]

end Registry

end Vigil
