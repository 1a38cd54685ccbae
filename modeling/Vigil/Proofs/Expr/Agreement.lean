import Mathlib.Data.List.Forall2
import Vigil.Expr.Evaluate

/-!
# Evaluation depends on the called functions alone

Where sensors are functions of their arguments, a registry gives every tree a value or an error
without doing anything else.  This outcome is settled by the definitions of the names that the tree
calls, also of those whose calls are never reached.

A `Value.Congruence` is a relation between values that all operators respect.  If two registries
respect it too, in what they answer to calls of these names, then they evaluate the tree alike:
`Registry.evaluate_alike`, by induction on the tree.  Equality is such a relation, and there it says
that registries that agree on the names give the tree one outcome.
-/

namespace Vigil

/-- A sensor that is a function of its arguments. -/
abbrev Reaction : Type :=
  List Value → Except SensorFailure Value

/-- What a function answers. -/
def Definition.react (definition : Definition Reaction) : Reaction :=
  match definition.body with
  | .builtin builtin => builtin.apply
  | .host reaction => reaction

namespace Registry

/-- The functions of a registry as evaluation reaches them. -/
def environment (registry : Registry Reaction) : Environment Id Reaction where
  lookup? := fun name => pure (registry.lookup? name)
  call := fun reaction arguments => pure (reaction arguments)

/-- The value of a tree, or the error that keeps it from having one. -/
def evaluate (registry : Registry Reaction) (tree : Tree) : Except EvalError Value :=
  Id.run (tree.evaluate registry.environment).run

/-- The values of several trees, up to the first error. -/
def evaluateAll (registry : Registry Reaction) (trees : List Tree) :
    Except EvalError (List Value) :=
  Id.run (Tree.evaluateAll registry.environment trees).run

/-! ## Evaluation, case by case -/

theorem run_bind {α β : Type}
    (action : ExceptT EvalError Id α) (next : α → ExceptT EvalError Id β) :
    Id.run (action >>= next).run =
      (Id.run action.run).bind fun result => Id.run (next result).run := by
  show Id.run (ExceptT.bindCont next action.run) = _
  rcases action.run with error | result <;> rfl

variable {registry : Registry Reaction}

theorem evaluate_literal (value : Value) : registry.evaluate (.literal value) = .ok value := by
  rw [evaluate, Tree.evaluate]
  rfl

theorem evaluateAll_nil : registry.evaluateAll [] = .ok [] := by
  rw [evaluateAll, Tree.evaluateAll]
  rfl

theorem evaluateAll_cons (tree : Tree) (rest : List Tree) :
    registry.evaluateAll (tree :: rest) =
      (registry.evaluate tree).bind fun value =>
        (registry.evaluateAll rest).map fun values => value :: values := by
  rw [evaluateAll, Tree.evaluateAll, run_bind]
  congr 1
  ext value
  rw [run_bind]
  rfl

theorem answer_eq (definition : Definition Reaction) (arguments : List Value) :
    registry.environment.answer definition arguments = pure (definition.react arguments) := by
  unfold Environment.answer Definition.react
  cases definition.body <;> rfl

theorem evaluate_call (name : String) (arguments : List Tree) (span : Span) :
    registry.evaluate (.call name arguments span) =
      (Definition.check name arguments.length (registry.lookup? name)).bind fun definition =>
        (registry.evaluateAll arguments).bind fun values =>
          (definition.react values).mapError (.sensor name) := by
  rw [evaluate, Tree.evaluate, run_bind]
  show Id.run (ExceptT.run (_ >>= _)) = _
  rw [run_bind]
  show Except.bind (Definition.check _ _ _) _ = _
  congr 1
  ext definition
  rw [run_bind]
  congr 1
  ext values
  rw [run_bind, answer_eq]
  rcases definition.react values with failure | value <;> rfl

theorem evaluate_unary (op : UnaryOp) (operand : Tree) :
    registry.evaluate (.unary op operand) =
      (registry.evaluate operand).bind fun value => value.applyUnary op := by
  rw [evaluate, Tree.evaluate, run_bind]
  rfl

theorem evaluate_and (left right : Tree) :
    registry.evaluate (.binary .and left right) =
      (registry.evaluate left).bind fun first =>
        (first.requireLogical .and).bind fun truth =>
          if truth then
            (registry.evaluate right).bind fun second =>
              (second.requireLogical .and).map Value.boolean
          else .ok (.boolean false) := by
  rw [evaluate, Tree.evaluate, run_bind]
  congr 1
  ext first
  rw [run_bind]
  show Except.bind (first.requireLogical .and) _ = _
  congr 1
  ext truth
  cases truth with
  | false => rfl
  | true =>
      rw [if_pos rfl, if_pos rfl, run_bind]
      congr 1
      ext second
      rw [run_bind]
      rfl

theorem evaluate_or (left right : Tree) :
    registry.evaluate (.binary .or left right) =
      (registry.evaluate left).bind fun first =>
        (first.requireLogical .or).bind fun truth =>
          if truth then .ok (.boolean true)
          else
            (registry.evaluate right).bind fun second =>
              (second.requireLogical .or).map Value.boolean := by
  rw [evaluate, Tree.evaluate, run_bind]
  congr 1
  ext first
  rw [run_bind]
  show Except.bind (first.requireLogical .or) _ = _
  congr 1
  ext truth
  cases truth with
  | true => rfl
  | false =>
      rw [if_neg Bool.false_ne_true, if_neg Bool.false_ne_true, run_bind]
      congr 1
      ext second
      rw [run_bind]
      rfl

/-- Every other operator looks at both operands. -/
theorem evaluate_binary {op : BinaryOp} (notAnd : op ≠ .and) (notOr : op ≠ .or)
    (left right : Tree) :
    registry.evaluate (.binary op left right) =
      (registry.evaluate left).bind fun first =>
        (registry.evaluate right).bind fun second => Value.applyBinary op first second := by
  rw [evaluate, Tree.evaluate, run_bind]
  · congr 1
    ext first
    rw [run_bind]
    rfl
  · exact notAnd
  · exact notOr

end Registry

/-! ## Outcomes that correspond -/

/-- Two outcomes are one error, or results that are related. -/
inductive EndAlike {ε α β : Type} (related : α → β → Prop) : Except ε α → Except ε β → Prop
  | ok {result : α} {result' : β} (same : related result result') :
      EndAlike related (.ok result) (.ok result')
  | error (error : ε) : EndAlike related (.error error) (.error error)

namespace EndAlike

variable {ε α β α' β' : Type} {related : α → β → Prop} {related' : α' → β' → Prop}
variable {first : Except ε α} {second : Except ε β}

theorem eq {first second : Except ε α} (ends : EndAlike Eq first second) : first = second := by
  cases ends with
  | ok same => rw [same]
  | error error => rfl

theorem refl {related : α → α → Prop} (same : ∀ result, related result result)
    (outcome : Except ε α) : EndAlike related outcome outcome := by
  cases outcome with
  | ok result => exact .ok (same result)
  | error error => exact .error error

theorem bind {next : α → Except ε α'} {next' : β → Except ε β'}
    (ends : EndAlike related first second)
    (further : ∀ result result', related result result' →
      EndAlike related' (next result) (next' result')) :
    EndAlike related' (first.bind next) (second.bind next') := by
  cases ends with
  | ok same => exact further _ _ same
  | error error => exact .error error

theorem map {change : α → α'} {change' : β → β'} (ends : EndAlike related first second)
    (same : ∀ result result', related result result' → related' (change result) (change' result')) :
    EndAlike related' (first.map change) (second.map change') := by
  cases ends with
  | ok related => exact .ok (same _ _ related)
  | error error => exact .error error

theorem mapError {ε' : Type} (change : ε → ε') (ends : EndAlike related first second) :
    EndAlike related (first.mapError change) (second.mapError change) := by
  cases ends with
  | ok same => exact .ok same
  | error error => exact .error (change error)

end EndAlike

/-! ## Congruence -/

/-- A relation between values that operators respect. -/
structure Value.Congruence (related : Value → Value → Prop) : Prop where
  refl : ∀ value, related value value
  logical : ∀ operator {first second}, related first second →
    first.requireLogical operator = second.requireLogical operator
  unary : ∀ op {first second}, related first second →
    EndAlike related (first.applyUnary op) (second.applyUnary op)
  binary : ∀ op {first first' second second'}, related first first' → related second second' →
    EndAlike related (Value.applyBinary op first second) (Value.applyBinary op first' second')

theorem Value.equality_congruence : Value.Congruence Eq where
  refl := fun _ => rfl
  logical := by
    rintro operator first _ rfl
    rfl
  unary := by
    rintro op first _ rfl
    exact .refl (fun _ => rfl) _
  binary := by
    rintro op first _ second _ rfl rfl
    exact .refl (fun _ => rfl) _

namespace Registry

/--
Two registries answer a name alike: it is in neither of them, or it is in both, with the same number
of arguments, and what they answer to so many related arguments corresponds.
-/
def AlikeOn (related : Value → Value → Prop) (first second : Registry Reaction) (name : String) :
    Prop :=
  match first.lookup? name, second.lookup? name with
  | none, none => True
  | some one, some other =>
    one.arity = other.arity ∧
      ∀ arguments arguments', arguments.length = one.arity →
        List.Forall₂ related arguments arguments' →
          EndAlike related (one.react arguments) (other.react arguments')
  | _, _ => False

section Congruence

variable {related : Value → Value → Prop} {first second : Registry Reaction}

theorem evaluateAll_alike {trees : List Tree}
    (each : ∀ tree ∈ trees, EndAlike related (first.evaluate tree) (second.evaluate tree)) :
    EndAlike (fun values values' =>
        values.length = trees.length ∧ List.Forall₂ related values values')
      (first.evaluateAll trees) (second.evaluateAll trees) := by
  induction trees with
  | nil =>
      rw [evaluateAll_nil, evaluateAll_nil]
      exact .ok ⟨rfl, .nil⟩
  | cons tree rest induction =>
      rw [evaluateAll_cons, evaluateAll_cons]
      refine (each tree List.mem_cons_self).bind fun value value' same => ?_
      refine (induction fun other member => each other (List.mem_cons_of_mem tree member)).map ?_
      rintro values values' ⟨length, all⟩
      exact ⟨congrArg (· + 1) length, .cons same all⟩

/-- Calls of a name that two registries answer alike have corresponding outcomes. -/
theorem evaluate_call_alike {name : String} {arguments : List Tree}
    (alike : AlikeOn related first second name)
    (each : ∀ tree ∈ arguments, EndAlike related (first.evaluate tree) (second.evaluate tree))
    (span : Span) :
    EndAlike related (first.evaluate (.call name arguments span))
      (second.evaluate (.call name arguments span)) := by
  rw [evaluate_call, evaluate_call]
  rw [AlikeOn] at alike
  split at alike
  · next absent absent' =>
    rw [absent, absent']
    exact .error _
  · next one other found found' =>
    rcases alike with ⟨arity, answers⟩
    rw [found, found', Definition.check, Definition.check, ← arity]
    split
    · next fits =>
      refine (evaluateAll_alike each).bind fun values values' same => ?_
      exact (answers values values' (same.1.trans fits.symm) same.2).mapError _
    · exact .error _
  · exact alike.elim

/-- The outcomes of a tree correspond if all names that it calls are answered alike. -/
theorem evaluate_alike (congruence : Value.Congruence related) {tree : Tree}
    (alike : ∀ call ∈ tree.calls, AlikeOn related first second call.name) :
    EndAlike related (first.evaluate tree) (second.evaluate tree) := by
  induction tree with
  | literal value =>
      rw [evaluate_literal, evaluate_literal]
      exact .ok (congruence.refl value)
  | call name arguments span each =>
      rw [Tree.calls, Tree.callsOfAll_eq_flatMap] at alike
      refine evaluate_call_alike (alike _ List.mem_cons_self) (fun argument member => ?_) span
      refine each argument member fun call inside => alike call (List.mem_cons_of_mem _ ?_)
      exact List.mem_flatMap.mpr ⟨argument, member, inside⟩
  | unary op operand induction =>
      rw [evaluate_unary, evaluate_unary]
      exact (induction alike).bind fun value value' same => congruence.unary op same
  | binary op left right leftInduction rightInduction =>
      rw [Tree.calls] at alike
      have leftAlike := leftInduction fun call inside =>
        alike call (List.mem_append_left _ inside)
      have rightAlike := rightInduction fun call inside =>
        alike call (List.mem_append_right _ inside)
      -- The truth of an operand is the same on both sides, and with it whether both are looked at.
      have truth (operator : Operator) :
          EndAlike Eq
            ((first.evaluate right).bind fun value =>
              (value.requireLogical operator).map Value.boolean)
            ((second.evaluate right).bind fun value =>
              (value.requireLogical operator).map Value.boolean) :=
        rightAlike.bind fun value value' same => by
          rw [congruence.logical operator same]
          exact .refl (fun _ => rfl) _
      by_cases isAnd : op = .and
      · rw [isAnd, evaluate_and, evaluate_and, (truth .and).eq]
        refine leftAlike.bind fun value value' same => ?_
        rw [congruence.logical .and same]
        exact .refl congruence.refl _
      · by_cases isOr : op = .or
        · rw [isOr, evaluate_or, evaluate_or, (truth .or).eq]
          refine leftAlike.bind fun value value' same => ?_
          rw [congruence.logical .or same]
          exact .refl congruence.refl _
        · rw [evaluate_binary isAnd isOr, evaluate_binary isAnd isOr]
          refine leftAlike.bind fun value value' same => ?_
          exact rightAlike.bind fun _ _ same' => congruence.binary op same same'

end Congruence

/-! ## Agreement -/

/--
Two registries treat a name alike: it is in neither of them, or it is in both, with the same number
of arguments and the same answers to all arguments.
-/
def AgreeOn (first second : Registry Reaction) (name : String) : Prop :=
  match first.lookup? name, second.lookup? name with
  | none, none => True
  | some one, some other =>
    one.arity = other.arity ∧ ∀ arguments, one.react arguments = other.react arguments
  | _, _ => False

variable {first second : Registry Reaction}

theorem AgreeOn.alikeOn {name : String} (agree : first.AgreeOn second name) :
    AlikeOn Eq first second name := by
  rw [AgreeOn] at agree
  rw [AlikeOn]
  split at agree
  · trivial
  · rcases agree with ⟨arity, answers⟩
    refine ⟨arity, fun arguments arguments' _ same => ?_⟩
    rw [List.forall₂_eq_eq_eq] at same
    rw [same, answers]
    exact .refl (fun _ => rfl) _
  · exact agree

/-- The outcome of a tree is settled by the definitions of the names that it calls. -/
theorem evaluate_eq_of_agree {tree : Tree}
    (agree : ∀ call ∈ tree.calls, first.AgreeOn second call.name) :
    first.evaluate tree = second.evaluate tree :=
  (evaluate_alike Value.equality_congruence fun call member => (agree call member).alikeOn).eq

end Registry

end Vigil
