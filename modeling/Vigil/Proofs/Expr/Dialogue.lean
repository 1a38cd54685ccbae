import Vigil.Proofs.Expr.Correspondence

/-!
# What an evaluation asks

An evaluation does nothing by itself.  It asks for the definitions of the functions that it comes
to, and has them called; which question is next may depend on the answers before it.  The dialogue
of a tree is all that its evaluation may come to ask, and every question says for which node.

`Tree.perform_dialogue` states that nothing else happens in any monad: to evaluate a tree is to put
the questions of its dialogue to the environment.  What sensors of any behaviour may see of an
evaluation is therefore settled by the courses that the dialogue can take, and `Dialogue.hold` is the
course that it takes where answers may change a state or stop the evaluation.
-/

namespace Vigil

/-- Where a node stands: which operand to take from the root on, counted from zero. -/
abbrev Address : Type :=
  List Nat

/-- A call of a tree, and where its node stands. -/
structure CallNode where
  address : Address
  call : Call

/-- The same node, seen from the node above. -/
def CallNode.under (index : Nat) (node : CallNode) : CallNode where
  address := index :: node.address
  call := node.call

/-- A call that is carried out: which function it came to, and the values of its arguments. -/
structure Invocation (Code : Type) where
  node : CallNode
  definition : Definition Code
  arguments : List Value

def Invocation.under {Code : Type} (index : Nat) (invocation : Invocation Code) : Invocation Code :=
  { invocation with node := invocation.node.under index }

/-! ## Dialogues -/

/-- A computation that asks for definitions and for calls, one question after the other. -/
inductive Dialogue (Code α : Type) where
  | done (result : α)
  | resolve (node : CallNode) (next : Option (Definition Code) → Dialogue Code α)
  | invoke (invocation : Invocation Code) (next : Except SensorFailure Value → Dialogue Code α)

namespace Dialogue

variable {Code α β : Type}

/-- One dialogue after the other. -/
protected def bind : Dialogue Code α → (α → Dialogue Code β) → Dialogue Code β
  | done result, next => next result
  | resolve node rest, next => resolve node fun found => (rest found).bind next
  | invoke invocation rest, next => invoke invocation fun answer => (rest answer).bind next

instance : Monad (Dialogue Code) where
  pure := done
  bind := Dialogue.bind

/-- A dialogue about an operand, as the node above takes part in it. -/
def within (index : Nat) : Dialogue Code α → Dialogue Code α
  | done result => done result
  | resolve node rest => resolve (node.under index) fun found => (rest found).within index
  | invoke invocation rest =>
    invoke (invocation.under index) fun answer => (rest answer).within index

/-- A dialogue about an operand, which may end in an error. -/
def about
    (index : Nat)
    (dialogue : ExceptT EvalError (Dialogue Code) α) : ExceptT EvalError (Dialogue Code) α :=
  ExceptT.mk (dialogue.run.within index)

end Dialogue

namespace Tree

variable {Code : Type}

mutual

/-- What the evaluation of a tree asks. -/
def dialogue : Tree → ExceptT EvalError (Dialogue Code) Value
  | literal value => pure value
  | call name arguments span => do
    let node : CallNode := ⟨[], ⟨name, arguments.length, span⟩⟩
    let found ← (Dialogue.resolve node .done : Dialogue Code _)
    let definition ← (Definition.check name arguments.length found : Except EvalError _)
    let values ← dialogueAll 0 arguments
    match ← (Dialogue.invoke ⟨node, definition, values⟩ .done : Dialogue Code _) with
    | .ok value => pure value
    | .error failure => throw (.sensor name failure)
  | unary op operand => do
    let value ← Dialogue.about 0 operand.dialogue
    (value.applyUnary op : Except EvalError Value)
  | binary .and left right => do
    let first ← Dialogue.about 0 left.dialogue
    if ← (first.requireLogical .and : Except EvalError Bool) then
      let second ← Dialogue.about 1 right.dialogue
      let truth ← (second.requireLogical .and : Except EvalError Bool)
      pure (.boolean truth)
    else
      pure (.boolean false)
  | binary .or left right => do
    let first ← Dialogue.about 0 left.dialogue
    if ← (first.requireLogical .or : Except EvalError Bool) then
      pure (.boolean true)
    else
      let second ← Dialogue.about 1 right.dialogue
      let truth ← (second.requireLogical .or : Except EvalError Bool)
      pure (.boolean truth)
  | binary op left right => do
    let first ← Dialogue.about 0 left.dialogue
    let second ← Dialogue.about 1 right.dialogue
    (Value.applyBinary op first second : Except EvalError Value)

/-- What the evaluation of several operands asks, where the first of them has the given index. -/
def dialogueAll : Nat → List Tree → ExceptT EvalError (Dialogue Code) (List Value)
  | _, [] => pure []
  | index, tree :: rest => do
    let value ← Dialogue.about index tree.dialogue
    let values ← dialogueAll (index + 1) rest
    pure (value :: values)

end

end Tree

/-! ## Evaluation puts the questions to its environment -/

namespace Dialogue

variable {m : Type → Type} [Monad m] {Code α β : Type} (environment : Environment m Code)

/-- Put the questions of a dialogue to an environment. -/
def perform : Dialogue Code α → m α
  | done result => pure result
  | resolve node next => do
    let found ← environment.lookup? node.call.name
    (next found).perform
  | invoke invocation next => do
    let answer ← environment.answer invocation.definition invocation.arguments
    (next answer).perform

theorem perform_within (index : Nat) (dialogue : Dialogue Code α) :
    (dialogue.within index).perform environment = dialogue.perform environment := by
  induction dialogue with
  | done result => rfl
  | resolve node next induction => exact congrArg (_ >>= ·) (funext induction)
  | invoke invocation next induction => exact congrArg (_ >>= ·) (funext induction)

variable [LawfulMonad m]

theorem perform_bind (dialogue : Dialogue Code α) (next : α → Dialogue Code β) :
    (dialogue >>= next).perform environment =
      dialogue.perform environment >>= fun result => (next result).perform environment := by
  induction dialogue with
  | done result => exact (pure_bind result fun result => (next result).perform environment).symm
  | resolve node rest induction =>
      refine Eq.trans ?_ (bind_assoc _ _ _).symm
      exact congrArg (_ >>= ·) (funext induction)
  | invoke invocation rest induction =>
      refine Eq.trans ?_ (bind_assoc _ _ _).symm
      exact congrArg (_ >>= ·) (funext induction)

/-- An action corresponds to a dialogue if it puts the same questions to the environment. -/
def performing : Correspondence m (Dialogue Code) where
  Holds := fun action dialogue => dialogue.perform environment = action
  holds_pure := fun _ => rfl
  holds_bind := by
    rintro α β _ dialogue next next' rfl second
    rw [perform_bind]
    exact congrArg (_ >>= ·) (funext second)
  holds_map := by
    rintro α β change _ dialogue rfl
    exact (perform_bind environment dialogue fun result => pure (change result)).trans
      (bind_pure_comp change _)

end Dialogue

section Perform

variable {m : Type → Type} [Monad m] [LawfulMonad m] {Code : Type}
variable (environment : Environment m Code)

namespace Dialogue

theorem performing_resolve (node : CallNode) :
    (performing environment).Holds (environment.lookup? node.call.name) (resolve node .done) :=
  bind_pure _

theorem performing_invoke (invocation : Invocation Code) :
    (performing environment).Holds
      (environment.answer invocation.definition invocation.arguments) (invoke invocation .done) :=
  bind_pure _

theorem performing_about {α : Type} {action : ExceptT EvalError m α}
    {dialogue : ExceptT EvalError (Dialogue Code) α}
    (same : (performing environment).Holds action.run dialogue.run) (index : Nat) :
    (performing environment).Holds action.run (about index dialogue).run :=
  (perform_within environment index dialogue.run).trans same

end Dialogue

namespace Tree

theorem performing_dialogueAll {trees : List Tree}
    (each : ∀ tree ∈ trees,
      (Dialogue.performing environment).Holds (tree.evaluate environment).run tree.dialogue.run)
    (index : Nat) :
    (Dialogue.performing environment).Holds (evaluateAll environment trees).run
      (dialogueAll index trees).run := by
  induction trees generalizing index with
  | nil =>
      rw [evaluateAll, dialogueAll]
      exact rfl
  | cons tree rest induction =>
      rw [evaluateAll, dialogueAll]
      have first := Dialogue.performing_about environment (each tree List.mem_cons_self) index
      refine (Dialogue.performing environment).bindExcept first fun value => ?_
      have others := induction fun other member => each other (List.mem_cons_of_mem tree member)
      exact (Dialogue.performing environment).bindExcept (others (index + 1)) fun values => rfl

/-- To evaluate a tree is to put the questions of its dialogue to the environment. -/
theorem perform_dialogue (tree : Tree) :
    tree.dialogue.run.perform environment = (tree.evaluate environment).run := by
  let relation := Dialogue.performing environment
  change relation.Holds (tree.evaluate environment).run tree.dialogue.run
  induction tree with
  | literal value =>
      rw [evaluate, dialogue]
      exact rfl
  | call name arguments span each =>
      rw [evaluate, dialogue]
      let node : CallNode := ⟨[], ⟨name, arguments.length, span⟩⟩
      have resolved := Dialogue.performing_resolve environment node
      refine relation.bindExcept (relation.liftExcept resolved) fun found => ?_
      refine relation.bindExcept (relation.pureExcept _) fun definition => ?_
      refine relation.bindExcept (performing_dialogueAll environment each 0) fun values => ?_
      have invoked := Dialogue.performing_invoke environment ⟨node, definition, values⟩
      refine relation.bindExcept (relation.liftExcept invoked) fun answer => ?_
      cases answer with
      | ok value => exact rfl
      | error failure => exact rfl
  | unary op operand induction =>
      rw [evaluate, dialogue]
      have operand := Dialogue.performing_about environment induction 0
      exact relation.bindExcept operand fun value => relation.pureExcept _
  | binary op left right leftInduction rightInduction =>
      have left := Dialogue.performing_about environment leftInduction 0
      have right := Dialogue.performing_about environment rightInduction 1
      cases op with
      | and =>
          rw [evaluate, dialogue]
          refine relation.bindExcept left fun first => ?_
          refine relation.bindExcept (relation.pureExcept _) fun truth => ?_
          cases truth with
          | true =>
              refine relation.bindExcept right fun second => ?_
              exact relation.bindExcept (relation.pureExcept _) fun truth => rfl
          | false => exact rfl
      | or =>
          rw [evaluate, dialogue]
          refine relation.bindExcept left fun first => ?_
          refine relation.bindExcept (relation.pureExcept _) fun truth => ?_
          cases truth with
          | true => exact rfl
          | false =>
              refine relation.bindExcept right fun second => ?_
              exact relation.bindExcept (relation.pureExcept _) fun truth => rfl
      | _ =>
          -- All other operators ask for both operands, whatever their values are.
          simp only [evaluate, dialogue]
          refine relation.bindExcept left fun first => ?_
          exact relation.bindExcept right fun second => relation.pureExcept _

end Tree

end Perform

end Vigil
