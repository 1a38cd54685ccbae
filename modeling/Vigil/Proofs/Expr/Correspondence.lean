import Vigil.Expr.Evaluate

/-!
# Evaluation on two sides

A tree can be evaluated in two monads at once, or in one monad by two hosts.  If lookups and calls
correspond, whatever that means, and sequences respect it, then so do the two evaluations.  This is
the one induction on trees that all statements about actions share: they choose what is to
correspond, and `Correspondence.evaluate` carries it from the functions to the tree.
-/

namespace Vigil

/-- A relation between the actions of two monads that sequences respect. -/
structure ActionRelation (m n : Type → Type) [Monad m] [Monad n] where
  Holds : {α : Type} → m α → n α → Prop
  holds_pure : ∀ {α : Type} (result : α), Holds (pure result : m α) (pure result)
  holds_bind : ∀ {α β : Type} {action : m α} {action' : n α} {next : α → m β} {next' : α → n β},
    Holds action action' → (∀ result, Holds (next result) (next' result)) →
      Holds (action >>= next) (action' >>= next')

/-- A relation that also respects changes of results, as errors need it. -/
structure Correspondence (m n : Type → Type) [Monad m] [Monad n] extends ActionRelation m n where
  holds_map : ∀ {α β : Type} (change : α → β) {action : m α} {action' : n α},
    Holds action action' → Holds (change <$> action) (change <$> action')

namespace Correspondence

variable {m n : Type → Type} [Monad m] [Monad n] (relation : Correspondence m n)

section Except

variable {ε α β : Type}

/-- Errors stop both sequences alike. -/
theorem bindExcept {action : ExceptT ε m α} {action' : ExceptT ε n α}
    {next : α → ExceptT ε m β} {next' : α → ExceptT ε n β}
    (first : relation.Holds action.run action'.run)
    (second : ∀ result, relation.Holds (next result).run (next' result).run) :
    relation.Holds (action >>= next).run (action' >>= next').run := by
  refine relation.holds_bind first fun outcome => ?_
  cases outcome with
  | ok result => exact second result
  | error error => exact relation.holds_pure (Except.error error)

theorem pureExcept (outcome : Except ε α) :
    relation.Holds (liftM outcome : ExceptT ε m α).run (liftM outcome : ExceptT ε n α).run :=
  relation.holds_pure outcome

theorem liftExcept {action : m α} {action' : n α} (same : relation.Holds action action') :
    relation.Holds (liftM action : ExceptT ε m α).run (liftM action' : ExceptT ε n α).run :=
  relation.holds_map Except.ok same

end Except

variable {Code : Type} {environment : Environment m Code} {environment' : Environment n Code}

theorem answer
    (call : ∀ code arguments,
      relation.Holds (environment.call code arguments) (environment'.call code arguments))
    (definition : Definition Code) (arguments : List Value) :
    relation.Holds (environment.answer definition arguments)
      (environment'.answer definition arguments) := by
  rw [Environment.answer, Environment.answer]
  split
  · exact relation.holds_pure _
  · exact call _ arguments

theorem evaluateAll {trees : List Tree}
    (each : ∀ tree ∈ trees,
      relation.Holds (tree.evaluate environment).run (tree.evaluate environment').run) :
    relation.Holds (Tree.evaluateAll environment trees).run
      (Tree.evaluateAll environment' trees).run := by
  induction trees with
  | nil =>
      rw [Tree.evaluateAll, Tree.evaluateAll]
      exact relation.holds_pure (Except.ok [])
  | cons tree rest induction =>
      rw [Tree.evaluateAll, Tree.evaluateAll]
      refine relation.bindExcept (each tree List.mem_cons_self) fun value => ?_
      refine relation.bindExcept (induction fun other member => ?_) fun values => ?_
      · exact each other (List.mem_cons_of_mem tree member)
      · exact relation.holds_pure (Except.ok (value :: values))

/-- The two evaluations of a tree correspond if looking functions up and calling them does. -/
theorem evaluate
    (lookup : ∀ name, relation.Holds (environment.lookup? name) (environment'.lookup? name))
    (call : ∀ code arguments,
      relation.Holds (environment.call code arguments) (environment'.call code arguments))
    (tree : Tree) :
    relation.Holds (tree.evaluate environment).run (tree.evaluate environment').run := by
  induction tree with
  | literal value =>
      rw [Tree.evaluate, Tree.evaluate]
      exact relation.holds_pure (Except.ok value)
  | call name arguments span each =>
      rw [Tree.evaluate, Tree.evaluate]
      refine relation.bindExcept (relation.liftExcept (lookup name)) fun found => ?_
      refine relation.bindExcept (relation.pureExcept _) fun definition => ?_
      refine relation.bindExcept (relation.evaluateAll each) fun values => ?_
      have answered := relation.answer call definition values
      refine relation.bindExcept (relation.liftExcept answered) fun outcome => ?_
      cases outcome with
      | ok value => exact relation.holds_pure (Except.ok value)
      | error failure => exact relation.holds_pure (Except.error _)
  | unary op operand induction =>
      rw [Tree.evaluate, Tree.evaluate]
      exact relation.bindExcept induction fun value => relation.pureExcept _
  | binary op left right leftInduction rightInduction =>
      cases op with
      | and =>
          rw [Tree.evaluate, Tree.evaluate]
          refine relation.bindExcept leftInduction fun first => ?_
          refine relation.bindExcept (relation.pureExcept _) fun truth => ?_
          cases truth with
          | true =>
              refine relation.bindExcept rightInduction fun second => ?_
              refine relation.bindExcept (relation.pureExcept _) fun truth => ?_
              exact relation.holds_pure (Except.ok (Value.boolean truth))
          | false => exact relation.holds_pure (Except.ok (Value.boolean false))
      | or =>
          rw [Tree.evaluate, Tree.evaluate]
          refine relation.bindExcept leftInduction fun first => ?_
          refine relation.bindExcept (relation.pureExcept _) fun truth => ?_
          cases truth with
          | true => exact relation.holds_pure (Except.ok (Value.boolean true))
          | false =>
              refine relation.bindExcept rightInduction fun second => ?_
              refine relation.bindExcept (relation.pureExcept _) fun truth => ?_
              exact relation.holds_pure (Except.ok (Value.boolean truth))
      | _ =>
          -- All other operators evaluate both operands, whatever their values are.
          simp only [Tree.evaluate]
          refine relation.bindExcept leftInduction fun first => ?_
          refine relation.bindExcept rightInduction fun second => ?_
          exact relation.pureExcept _

end Correspondence

end Vigil
