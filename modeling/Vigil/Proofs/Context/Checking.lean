import Vigil.Expr.Evaluate

/-!
# Checking calls

A call fits a registry if its function is registered and takes as many arguments as the call gives.
`Tree.check_eq` says what checking a tree finds out: the error of the first call that does not fit,
if there is one.  All calls count, whether or not evaluation would come to them.

Registries only grow, so what fits once fits from then on.
-/

namespace Vigil

variable {Code : Type}

/-! ## Registries that grow -/

namespace Registry

/-- Every name that is registered keeps its definition. -/
def Extends (first second : Registry Code) : Prop :=
  ∀ name definition, first.lookup? name = some definition → second.lookup? name = some definition

theorem Extends.refl (registry : Registry Code) : registry.Extends registry :=
  fun _ _ found => found

theorem Extends.trans {first second third : Registry Code}
    (before : first.Extends second) (after : second.Extends third) : first.Extends third :=
  fun name definition found => after name definition (before name definition found)

variable {registry extended : Registry Code}

theorem extends_of_register {definition : Definition Code}
    (registered : registry.register definition = .ok extended) : registry.Extends extended := by
  rcases register_eq_ok_iff.mp registered with ⟨-, new, rfl⟩
  intro name known found
  have differ : name ≠ definition.name := by
    rintro rfl
    rw [contains_eq_false.mp new] at found
    cases found
  rw [lookup?_add_ne differ, found]

theorem extends_registerAll (registry : Registry Code) (definitions : List (Definition Code)) :
    registry.Extends (registry.registerAll definitions).1 := by
  induction definitions generalizing registry with
  | nil => exact .refl registry
  | cons definition rest induction =>
      rw [registerAll]
      split
      · next extended registered =>
        exact (extends_of_register registered).trans (induction extended)
      · exact .refl registry

end Registry

/-! ## Calls that fit -/

/-- An error that checking could have found. -/
def EvalError.IsMisfit : EvalError → Prop
  | unknownFunction _ => True
  | arityMismatch _ _ _ => True
  | _ => False

namespace Call

/-- The function of a call is registered, with as many arguments as the call gives. -/
def Fits (registry : Registry Code) (call : Call) : Prop :=
  ∃ definition,
    registry.lookup? call.name = some definition ∧ definition.arity = call.argumentCount

/-- What is wrong with a call. -/
def misfit? (registry : Registry Code) (call : Call) : Option EvalError :=
  match registry.lookup? call.name with
  | none => some (.unknownFunction call.name)
  | some definition =>
    if definition.arity = call.argumentCount then none
    else some (.arityMismatch call.name definition.arity call.argumentCount)

variable {registry extended : Registry Code} {call : Call}

theorem misfit?_eq_none_iff : call.misfit? registry = none ↔ call.Fits registry := by
  rw [misfit?, Fits]
  cases registry.lookup? call.name with
  | none => simp
  | some definition => simp

theorem Fits.extends (fits : call.Fits registry) (grown : registry.Extends extended) :
    call.Fits extended := by
  rcases fits with ⟨definition, found, arity⟩
  exact ⟨definition, grown _ _ found, arity⟩

/-- A call that fits is resolved to the definition of its function. -/
theorem Fits.check (fits : call.Fits registry) :
    ∃ definition,
      Definition.check call.name call.argumentCount (registry.lookup? call.name) =
        .ok definition := by
  rcases fits with ⟨definition, found, arity⟩
  exact ⟨definition, by rw [found, Definition.check, if_pos arity]⟩

theorem check_eq (registry : Registry Code) (call : Call) :
    ((Definition.check call.name call.argumentCount (registry.lookup? call.name)).map
        fun _ => ()) =
      match call.misfit? registry with
      | none => .ok ()
      | some error => .error error := by
  rw [misfit?]
  cases registry.lookup? call.name with
  | none => rfl
  | some definition =>
      simp only [Definition.check]
      split <;> rfl

end Call

/-! ## Checking trees -/

namespace Tree

/-- Checking finds the first thing that is wrong with a call. -/
theorem check_eq (registry : Registry Code) (tree : Tree) :
    tree.check registry =
      match tree.calls.findSome? (Call.misfit? registry) with
      | none => .ok ()
      | some error => .error error := by
  rw [check]
  induction tree.calls with
  | nil => rfl
  | cons call rest induction =>
      rw [List.forM, Call.check_eq, List.findSome?_cons]
      cases call.misfit? registry with
      | none => exact induction
      | some error => rfl

theorem check_eq_error_iff {registry : Registry Code} {tree : Tree} {error : EvalError} :
    tree.check registry = .error error ↔
      ∃ before call after,
        tree.calls = before ++ call :: after ∧
          (∀ earlier ∈ before, earlier.Fits registry) ∧ call.misfit? registry = some error := by
  have found : tree.check registry = .error error ↔
      tree.calls.findSome? (Call.misfit? registry) = some error := by
    rw [check_eq]
    cases tree.calls.findSome? (Call.misfit? registry) <;> simp
  rw [found, List.findSome?_eq_some_iff]
  simp only [Call.misfit?_eq_none_iff, and_comm]

theorem check_eq_ok_iff {registry : Registry Code} {tree : Tree} :
    tree.check registry = .ok () ↔ ∀ call ∈ tree.calls, call.Fits registry := by
  have found : tree.check registry = .ok () ↔
      tree.calls.findSome? (Call.misfit? registry) = none := by
    rw [check_eq]
    cases tree.calls.findSome? (Call.misfit? registry) <;> simp
  rw [found, List.findSome?_eq_none_iff]
  simp only [Call.misfit?_eq_none_iff]

/-- A single call that does not fit is enough, also one that evaluation would not come to. -/
theorem check_fails_iff {registry : Registry Code} {tree : Tree} :
    (∃ error, tree.check registry = .error error) ↔ ∃ call ∈ tree.calls, ¬call.Fits registry := by
  constructor
  · rintro ⟨error, failed⟩
    obtain ⟨before, call, after, same, -, wrong⟩ := check_eq_error_iff.mp failed
    refine ⟨call, by simp [same], ?_⟩
    intro fits
    rw [Call.misfit?_eq_none_iff.mpr fits] at wrong
    cases wrong
  · rintro ⟨call, member, unfit⟩
    cases checked : tree.check registry with
    | error error => exact ⟨error, rfl⟩
    | ok nothing => exact absurd (check_eq_ok_iff.mp checked call member) unfit

end Tree

end Vigil
