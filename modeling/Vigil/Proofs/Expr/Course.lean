import Vigil.Proofs.Expr.Dialogue

/-!
# The course of an evaluation

A course is what is said in a dialogue: the questions with their answers, in the order in which they
are put.  A course ends with a result, or where a question is not answered.

`Dialogue.hold` is the course that a dialogue takes with an environment whose answers may depend on a
state, change it, and stop everything.  `Dialogue.course_hold` says that it is one of the courses the
dialogue can take, `Tree.hold_dialogue` that it ends as the evaluation does, and
`Dialogue.happened_of_hold` that the environment did give the answers that stand in it.  An
environment that keeps notes while a tree is evaluated finds there what stands in the course, as
`Tree.evaluate_noting` states without mention of dialogues.
-/

namespace Vigil

/-- A call that was carried out, and its answer if there is one. -/
structure Reply (Code : Type) where
  invocation : Invocation Code
  answer? : Option (Except SensorFailure Value)

def Reply.under {Code : Type} (index : Nat) (reply : Reply Code) : Reply Code :=
  { reply with invocation := reply.invocation.under index }

/-- The sensor that was called gave an answer. -/
def Reply.Succeeds {Code : Type} (reply : Reply Code) : Prop :=
  ∃ value, reply.answer? = some (.ok value)

/-- A question of an evaluation and its answer. -/
inductive Exchange (Code : Type) where
  | resolved (node : CallNode) (found : Option (Definition Code))
  | called (reply : Reply Code)

namespace Exchange

variable {Code : Type}

/-- The same exchange, seen from the node above. -/
def under (index : Nat) : Exchange Code → Exchange Code
  | resolved node found => resolved (node.under index) found
  | called reply => called (reply.under index)

/-- The call that an exchange is about. -/
def reply? : Exchange Code → Option (Reply Code)
  | resolved _ _ => none
  | called reply => some reply

/-- All calls that were carried out, in order. -/
def replies (exchanges : List (Exchange Code)) : List (Reply Code) :=
  exchanges.filterMap reply?

@[simp]
theorem replies_append (before after : List (Exchange Code)) :
    replies (before ++ after) = replies before ++ replies after :=
  List.filterMap_append

@[simp]
theorem replies_under (index : Nat) (exchanges : List (Exchange Code)) :
    replies (exchanges.map (under index)) = (replies exchanges).map (Reply.under index) := by
  rw [replies, replies, List.filterMap_map, List.map_filterMap]
  congr 1
  ext1 exchange
  cases exchange <;> rfl

/-- The nodes whose calls were carried out, in order. -/
def invoked (exchanges : List (Exchange Code)) : List CallNode :=
  (replies exchanges).map fun reply => reply.invocation.node

@[simp]
theorem invoked_append (before after : List (Exchange Code)) :
    invoked (before ++ after) = invoked before ++ invoked after := by
  simp [invoked]

@[simp]
theorem invoked_under (index : Nat) (exchanges : List (Exchange Code)) :
    invoked (exchanges.map (under index)) = (invoked exchanges).map (CallNode.under index) := by
  simp only [invoked, replies_under, List.map_map]
  rfl

end Exchange

namespace Dialogue

variable {Code α β : Type}

/-! ## Courses -/

/-- What can be said in a dialogue, and the result that it comes to unless it is broken off. -/
inductive Course : Dialogue Code α → List (Exchange Code) → Option α → Prop where
  | done (result : α) : Course (.done result) [] (some result)
  | unresolved (node : CallNode) (next : Option (Definition Code) → Dialogue Code α) :
      Course (.resolve node next) [] none
  | resolved {node : CallNode} {next : Option (Definition Code) → Dialogue Code α}
      {found : Option (Definition Code)} {later : List (Exchange Code)} {result? : Option α}
      (course : Course (next found) later result?) :
      Course (.resolve node next) (.resolved node found :: later) result?
  | unanswered (invocation : Invocation Code)
      (next : Except SensorFailure Value → Dialogue Code α) :
      Course (.invoke invocation next) [.called ⟨invocation, none⟩] none
  | answered {invocation : Invocation Code} {next : Except SensorFailure Value → Dialogue Code α}
      {answer : Except SensorFailure Value} {later : List (Exchange Code)} {result? : Option α}
      (course : Course (next answer) later result?) :
      Course (.invoke invocation next) (.called ⟨invocation, some answer⟩ :: later) result?

namespace Course

/-- What is said settles the result. -/
theorem unique {dialogue : Dialogue Code α} {exchanges : List (Exchange Code)}
    {result? other? : Option α} (course : Course dialogue exchanges result?)
    (other : Course dialogue exchanges other?) : result? = other? := by
  induction course with
  | done result =>
      cases other
      rfl
  | unresolved node next =>
      cases other
      rfl
  | resolved course induction =>
      cases other with
      | resolved same => exact induction same
  | unanswered invocation next =>
      cases other
      rfl
  | answered course induction =>
      cases other with
      | answered same => exact induction same

/-- A course about an operand is one of the operand, seen from the node above. -/
theorem of_within {index : Nat} {dialogue : Dialogue Code α} {exchanges : List (Exchange Code)}
    {result? : Option α} (course : Course (dialogue.within index) exchanges result?) :
    ∃ inner, exchanges = inner.map (Exchange.under index) ∧ Course dialogue inner result? := by
  induction dialogue generalizing exchanges with
  | done result =>
      cases course
      exact ⟨[], rfl, .done result⟩
  | resolve node next induction =>
      cases course with
      | unresolved => exact ⟨[], rfl, .unresolved node next⟩
      | resolved course =>
          rcases induction _ course with ⟨inner, rfl, inside⟩
          exact ⟨.resolved node _ :: inner, rfl, .resolved inside⟩
  | invoke invocation next induction =>
      cases course with
      | unanswered => exact ⟨[.called ⟨invocation, none⟩], rfl, .unanswered invocation next⟩
      | answered course =>
          rcases induction _ course with ⟨inner, rfl, inside⟩
          exact ⟨.called ⟨invocation, some _⟩ :: inner, rfl, .answered inside⟩

/-- A sequence is broken off in its first part, or the first part comes to a result. -/
theorem of_bind {first : Dialogue Code α} {next : α → Dialogue Code β}
    {exchanges : List (Exchange Code)} {result? : Option β}
    (course : Course (first >>= next) exchanges result?) :
    (Course first exchanges none ∧ result? = none) ∨
      ∃ before after value,
        exchanges = before ++ after ∧ Course first before (some value) ∧
          Course (next value) after result? := by
  induction first generalizing exchanges with
  | done value => exact .inr ⟨[], exchanges, value, rfl, .done value, course⟩
  | resolve node rest induction =>
      cases course with
      | unresolved => exact .inl ⟨.unresolved node rest, rfl⟩
      | resolved course =>
          rcases induction _ course with ⟨broken, rfl⟩ | ⟨before, after, value, rfl, first, second⟩
          · exact .inl ⟨.resolved broken, rfl⟩
          · exact .inr ⟨_ :: before, after, value, rfl, .resolved first, second⟩
  | invoke invocation rest induction =>
      cases course with
      | unanswered => exact .inl ⟨.unanswered invocation rest, rfl⟩
      | answered course =>
          rcases induction _ course with ⟨broken, rfl⟩ | ⟨before, after, value, rfl, first, second⟩
          · exact .inl ⟨.answered broken, rfl⟩
          · exact .inr ⟨_ :: before, after, value, rfl, .answered first, second⟩

section Except

variable {exchanges : List (Exchange Code)}

/-- As `of_bind`, where the first part may also end in an error. -/
theorem of_bindExcept {first : ExceptT EvalError (Dialogue Code) α}
    {next : α → ExceptT EvalError (Dialogue Code) β} {ending? : Option (Except EvalError β)}
    (course : Course (first >>= next).run exchanges ending?) :
    (Course first.run exchanges none ∧ ending? = none) ∨
      (∃ error, Course first.run exchanges (some (.error error)) ∧
        ending? = some (.error error)) ∨
      ∃ before after value,
        exchanges = before ++ after ∧ Course first.run before (some (.ok value)) ∧
          Course (next value).run after ending? := by
  rcases of_bind course with broken | ⟨before, after, outcome, rfl, begun, rest⟩
  · exact .inl broken
  · cases outcome with
    | error error =>
        cases rest
        rw [List.append_nil]
        exact .inr (.inl ⟨error, begun, rfl⟩)
    | ok value => exact .inr (.inr ⟨before, after, value, rfl, begun, rest⟩)

/-- What leads to a value leads to values all along. -/
theorem of_bindExcept_ok {first : ExceptT EvalError (Dialogue Code) α}
    {next : α → ExceptT EvalError (Dialogue Code) β} {result : β}
    (course : Course (first >>= next).run exchanges (some (.ok result))) :
    ∃ before after value,
      exchanges = before ++ after ∧ Course first.run before (some (.ok value)) ∧
        Course (next value).run after (some (.ok result)) := by
  rcases of_bindExcept course with ⟨-, impossible⟩ | ⟨error, -, impossible⟩ | found
  · cases impossible
  · cases impossible
  · exact found

theorem of_outcome {outcome : Except EvalError α} {ending? : Option (Except EvalError α)}
    (course : Course (liftM outcome : ExceptT EvalError (Dialogue Code) α).run exchanges ending?) :
    exchanges = [] ∧ ending? = some outcome := by
  cases course
  exact ⟨rfl, rfl⟩

theorem of_resolve {node : CallNode} {ending? : Option (Except EvalError _)}
    (course : Course
      (liftM (resolve node .done : Dialogue Code _) : ExceptT EvalError (Dialogue Code) _).run
      exchanges ending?) :
    (exchanges = [] ∧ ending? = none) ∨
      ∃ found, exchanges = [.resolved node found] ∧ ending? = some (.ok found) := by
  cases course with
  | unresolved => exact .inl ⟨rfl, rfl⟩
  | @resolved _ _ found _ _ course =>
      cases course
      exact .inr ⟨found, rfl, rfl⟩

theorem of_invoke {invocation : Invocation Code} {ending? : Option (Except EvalError _)}
    (course : Course
      (liftM (invoke invocation .done : Dialogue Code _) : ExceptT EvalError (Dialogue Code) _).run
      exchanges ending?) :
    ∃ answer?, exchanges = [.called ⟨invocation, answer?⟩] ∧ ending? = answer?.map Except.ok := by
  cases course with
  | unanswered => exact ⟨none, rfl, rfl⟩
  | @answered _ _ answer _ _ course =>
      cases course
      exact ⟨some answer, rfl, rfl⟩

end Except

end Course

/-! ## Dialogues with an environment -/

section Hold

variable {ε σ : Type} (environment : Environment (EStateM ε σ) Code)

/-- The state in which a computation ends, whether or not it is stopped. -/
def finalState : EStateM.Result ε σ α → σ
  | .ok _ state => state
  | .error _ state => state

/-- The result of a computation that is not stopped. -/
def result? : EStateM.Result ε σ α → Option α
  | .ok result _ => some result
  | .error _ _ => none

/-- Put the questions of a dialogue to an environment, and keep what is said. -/
def hold : Dialogue Code α → σ → List (Exchange Code) × EStateM.Result ε σ α
  | done result, state => ([], .ok result state)
  | resolve node next, state =>
    match environment.lookup? node.call.name state with
    | .ok found later =>
      let (exchanges, ending) := (next found).hold later
      (.resolved node found :: exchanges, ending)
    | .error stop later => ([], .error stop later)
  | invoke invocation next, state =>
    match environment.answer invocation.definition invocation.arguments state with
    | .ok answer later =>
      let (exchanges, ending) := (next answer).hold later
      (.called ⟨invocation, some answer⟩ :: exchanges, ending)
    | .error stop later => ([.called ⟨invocation, none⟩], .error stop later)

/-- Keeping what is said makes no difference. -/
theorem snd_hold (dialogue : Dialogue Code α) (state : σ) :
    (dialogue.hold environment state).2 = dialogue.perform environment state := by
  induction dialogue generalizing state with
  | done result => rfl
  | resolve node next induction =>
      rw [hold, perform]
      show _ = EStateM.bind _ _ state
      rw [EStateM.bind]
      cases environment.lookup? node.call.name state with
      | ok found later => exact induction found later
      | error stop later => rfl
  | invoke invocation next induction =>
      rw [hold, perform]
      show _ = EStateM.bind _ _ state
      rw [EStateM.bind]
      cases environment.answer invocation.definition invocation.arguments state with
      | ok answer later => exact induction answer later
      | error stop later => rfl

/-- What is said with an environment is a course of the dialogue. -/
theorem course_hold (dialogue : Dialogue Code α) (state : σ) :
    Course dialogue (dialogue.hold environment state).1
      (result? (dialogue.hold environment state).2) := by
  induction dialogue generalizing state with
  | done result => exact .done result
  | resolve node next induction =>
      rw [hold]
      cases environment.lookup? node.call.name state with
      | ok found later => exact .resolved (induction found later)
      | error stop later => exact .unresolved node next
  | invoke invocation next induction =>
      rw [hold]
      cases environment.answer invocation.definition invocation.arguments state with
      | ok answer later => exact .answered (induction answer later)
      | error stop later => exact .unanswered invocation next

/-- An environment says in a state what stands in an exchange. -/
def Happened (state : σ) : Exchange Code → Prop
  | .resolved node found =>
    ∃ later, environment.lookup? node.call.name state = .ok found later
  | .called ⟨invocation, some answer⟩ =>
    ∃ later, environment.answer invocation.definition invocation.arguments state = .ok answer later
  | .called ⟨invocation, none⟩ =>
    ∃ stop later,
      environment.answer invocation.definition invocation.arguments state = .error stop later

theorem Happened.succeeds {state later : σ} {reply : Reply Code} {value : Value}
    (happened : Happened environment state (.called reply))
    (answered : environment.answer reply.invocation.definition reply.invocation.arguments state =
      .ok (.ok value) later) : reply.Succeeds := by
  rcases reply with ⟨invocation, _ | answer⟩
  · rcases happened with ⟨stop, other, stopped⟩
    cases answered.symm.trans stopped
  · rcases happened with ⟨other, same⟩
    cases answered.symm.trans same
    exact ⟨value, rfl⟩

/-- Each exchange happened in some state on the way, if the environment only goes along `link`. -/
theorem happened_of_hold {link : σ → σ → Prop} (refl : ∀ state, link state state)
    (trans : ∀ {first second third}, link first second → link second third → link first third)
    (looking : ∀ name state, link state (finalState (environment.lookup? name state)))
    (calling : ∀ definition arguments state,
      link state (finalState (environment.answer definition arguments state)))
    (dialogue : Dialogue Code α) (state : σ) :
    link state (finalState (dialogue.hold environment state).2) ∧
      ∀ exchange ∈ (dialogue.hold environment state).1,
        ∃ moment,
          Happened environment moment exchange ∧
            link moment (finalState (dialogue.hold environment state).2) := by
  induction dialogue generalizing state with
  | done result => exact ⟨refl state, fun exchange none => (List.not_mem_nil none).elim⟩
  | resolve node next induction =>
      have step := looking node.call.name state
      cases looked : environment.lookup? node.call.name state with
      | ok found later =>
          rw [looked] at step
          rcases induction found later with ⟨rest, happened⟩
          have whole := trans step rest
          simp only [hold, looked]
          refine ⟨whole, fun exchange member => ?_⟩
          rcases List.mem_cons.mp member with rfl | member
          · exact ⟨state, ⟨later, looked⟩, whole⟩
          · exact happened exchange member
      | error stop later =>
          rw [looked] at step
          simp only [hold, looked]
          exact ⟨step, fun exchange none => (List.not_mem_nil none).elim⟩
  | invoke invocation next induction =>
      have step := calling invocation.definition invocation.arguments state
      cases called : environment.answer invocation.definition invocation.arguments state with
      | ok answer later =>
          rw [called] at step
          rcases induction answer later with ⟨rest, happened⟩
          have whole := trans step rest
          simp only [hold, called]
          refine ⟨whole, fun exchange member => ?_⟩
          rcases List.mem_cons.mp member with rfl | member
          · exact ⟨state, ⟨later, called⟩, whole⟩
          · exact happened exchange member
      | error stop later =>
          rw [called] at step
          simp only [hold, called]
          refine ⟨step, fun exchange member => ?_⟩
          rcases List.mem_singleton.mp member with rfl
          exact ⟨state, ⟨stop, later, called⟩, step⟩

/-! ## Environments that keep notes -/

/-- What an environment is asked, and what it answers unless it is stopped. -/
inductive Note (Code : Type) where
  | lookedUp (name : String) (found : Option (Definition Code))
  | called (code : Code) (arguments : List Value) (answer? : Option (Except SensorFailure Value))

/-- The same environment, which also notes what it is asked. -/
def noting : Environment (EStateM ε (σ × List (Note Code))) Code where
  lookup? := fun name (state, notes) =>
    match environment.lookup? name state with
    | .ok found later => .ok found (later, notes ++ [.lookedUp name found])
    | .error stop later => .error stop (later, notes)
  call := fun code arguments (state, notes) =>
    match environment.call code arguments state with
    | .ok answer later => .ok answer (later, notes ++ [.called code arguments (some answer)])
    | .error stop later => .error stop (later, notes ++ [.called code arguments none])

theorem lookup?_noting (name : String) (state : σ) (notes : List (Note Code)) :
    (noting environment).lookup? name (state, notes) =
      match environment.lookup? name state with
      | .ok found later => .ok found (later, notes ++ [.lookedUp name found])
      | .error stop later => .error stop (later, notes) :=
  rfl

theorem call_noting (code : Code) (arguments : List Value) (state : σ) (notes : List (Note Code)) :
    (noting environment).call code arguments (state, notes) =
      match environment.call code arguments state with
      | .ok answer later => .ok answer (later, notes ++ [.called code arguments (some answer)])
      | .error stop later => .error stop (later, notes ++ [.called code arguments none]) :=
  rfl

/-- What an environment can note of an exchange: built-in functions are called without it. -/
def note? : Exchange Code → Option (Note Code)
  | .resolved node found => some (.lookedUp node.call.name found)
  | .called reply =>
    match reply.invocation.definition.body with
    | .builtin _ => none
    | .host code => some (.called code reply.invocation.arguments reply.answer?)

/-- The notes are what stands in the course. -/
theorem perform_noting (dialogue : Dialogue Code α) (state : σ) (notes : List (Note Code)) :
    finalState (dialogue.perform (noting environment) (state, notes)) =
      (finalState (dialogue.hold environment state).2,
        notes ++ (dialogue.hold environment state).1.filterMap note?) := by
  induction dialogue generalizing state notes with
  | done result =>
      rw [hold, List.filterMap_nil, List.append_nil]
      rfl
  | resolve node next induction =>
      rw [perform]
      show finalState (EStateM.bind _ _ (state, notes)) = _
      rw [EStateM.bind, lookup?_noting]
      cases looked : environment.lookup? node.call.name state with
      | ok found later =>
          have noted : note? (.resolved node found) = some (.lookedUp node.call.name found) := rfl
          simp only [hold, looked]
          rw [List.filterMap_cons_some noted]
          exact (induction found later _).trans
            (congrArg (Prod.mk _) (List.append_cons notes _ _).symm)
      | error stop later =>
          simp only [hold, looked]
          rw [List.filterMap_nil, List.append_nil]
          rfl
  | invoke invocation next induction =>
      rcases invocation with ⟨node, ⟨name, arity, builtin | code⟩, arguments⟩
      · exact induction (builtin.apply arguments) state notes
      · rw [perform]
        show finalState (EStateM.bind ((noting environment).call code arguments) _ (state, notes)) = _
        have answered : environment.answer ⟨name, arity, .host code⟩ arguments =
            environment.call code arguments := rfl
        rw [EStateM.bind, call_noting]
        cases called : environment.call code arguments state with
        | ok answer later =>
            have noted : note? (.called ⟨⟨node, ⟨name, arity, .host code⟩, arguments⟩, some answer⟩) =
              some (.called code arguments (some answer)) := rfl
            simp only [hold, answered, called]
            rw [List.filterMap_cons_some noted]
            exact (induction answer later _).trans
              (congrArg (Prod.mk _) (List.append_cons notes _ _).symm)
        | error stop later =>
            simp only [hold, answered, called]
            rfl

end Hold

end Dialogue

section Evaluation

variable {Code ε σ : Type} (environment : Environment (EStateM ε σ) Code)

/-- The exchanges of the evaluation of a tree that begins in a state. -/
def Tree.exchanges (tree : Tree) (state : σ) : List (Exchange Code) :=
  (tree.dialogue.run.hold environment state).1

/-- Evaluation ends as the dialogue of the tree does. -/
theorem Tree.hold_dialogue (tree : Tree) (state : σ) :
    tree.dialogue.run.hold environment state =
      (tree.exchanges environment state, (tree.evaluate environment).run state) := by
  refine Prod.ext rfl ?_
  rw [Dialogue.snd_hold, Tree.perform_dialogue]

/-- An environment that keeps notes while a tree is evaluated notes just what stands in the course. -/
theorem Tree.evaluate_noting (tree : Tree) (state : σ) :
    Dialogue.finalState
        ((tree.evaluate (Dialogue.noting environment)).run (state, ([] : List (Dialogue.Note Code)))) =
      (Dialogue.finalState ((tree.evaluate environment).run state),
        (tree.exchanges environment state).filterMap Dialogue.note?) := by
  have noted := tree.dialogue.run.perform_noting environment state []
  rw [tree.hold_dialogue environment state, Tree.perform_dialogue] at noted
  exact noted

end Evaluation

end Vigil
