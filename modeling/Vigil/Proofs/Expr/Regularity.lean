import Vigil.Proofs.Expr.Course
import Vigil.Proofs.Expr.Postorder
import Vigil.Proofs.Value.Operators

/-!
# Evaluation is regular

Whatever is answered, the course of an evaluation keeps to three rules.  Calls are carried out in
post-order.  A failing sensor is the last that is called, and its failure is the error in which the
evaluation ends.  A function is given as many arguments as the definition says that was found for it.

`Regular` states these rules, and they pass from the parts of a course to the whole.
`Tree.dialogue_steady` is the one induction on trees that they share.
-/

namespace Vigil

variable {Code : Type}

/-! ## Rules for courses -/

/-- How a course ends. -/
inductive Ending where
  | stopped
  | failed (error : EvalError)
  | value

/-- The ending of a course that comes to an outcome unless it is broken off. -/
def Ending.ofOutcome? {α : Type} : Option (Except EvalError α) → Ending
  | none => stopped
  | some (.error error) => failed error
  | some (.ok _) => value

/-- The ending where a call has been the last that was carried out. -/
def Reply.ending (reply : Reply Code) : Ending :=
  match reply.answer? with
  | none => .stopped
  | some (.error failure) => .failed (.sensor reply.invocation.node.call.name failure)
  | some (.ok _) => .value

/-- All calls are answered, unless the last of them is the reason for the ending. -/
inductive Telling : List (Reply Code) → Ending → Prop where
  | smooth {replies : List (Reply Code)} {ending : Ending}
      (all : ∀ reply ∈ replies, reply.Succeeds)
      (other : ∀ name failure, ending ≠ .failed (.sensor name failure)) :
      Telling replies ending
  | broken {earlier : List (Reply Code)} {last : Reply Code}
      (all : ∀ reply ∈ earlier, reply.Succeeds) (unsuccessful : ¬last.Succeeds) :
      Telling (earlier ++ [last]) last.ending

/-- A call has a definition that was found for its node and takes its arguments. -/
def Reply.FitsIn (reply : Reply Code) (exchanges : List (Exchange Code)) : Prop :=
  .resolved reply.invocation.node (some reply.invocation.definition) ∈ exchanges ∧
    reply.invocation.arguments.length = reply.invocation.definition.arity

/-- The rules that the course of an evaluation keeps to while it visits some calls. -/
structure Regular (visited : List CallNode) (exchanges : List (Exchange Code)) (ending : Ending) :
    Prop where
  ordered : (Exchange.invoked exchanges).Sublist visited
  telling : Telling (Exchange.replies exchanges) ending
  fitting : ∀ reply ∈ Exchange.replies exchanges, reply.FitsIn exchanges

theorem Reply.ending_eq_sensor_iff {reply : Reply Code} {name : String} {failure : SensorFailure} :
    reply.ending = .failed (.sensor name failure) ↔
      reply.invocation.node.call.name = name ∧ reply.answer? = some (.error failure) := by
  rw [ending]
  constructor
  · intro same
    split at same
    · cases same
    · next answered =>
      cases same
      exact ⟨rfl, answered⟩
    · cases same
  · rintro ⟨rfl, answered⟩
    rw [answered]

/-- All calls are answered unless the last of them is the reason for the ending. -/
theorem Telling.all_succeed_of_ne {replies : List (Reply Code)} {ending : Ending}
    (telling : Telling replies ending) (ended : ending ≠ .stopped)
    (other : ∀ name failure, ending ≠ .failed (.sensor name failure)) :
    ∀ reply ∈ replies, reply.Succeeds := by
  cases telling with
  | smooth all _ => exact all
  | @broken earlier last all unsuccessful =>
      refine absurd ?_ unsuccessful
      cases answered : last.answer? with
      | none => exact absurd (by rw [Reply.ending, answered]) ended
      | some answer =>
          cases answer with
          | error failure =>
              exact absurd (Reply.ending_eq_sensor_iff.mpr ⟨rfl, answered⟩) (other _ failure)
          | ok value => exact ⟨value, answered⟩

theorem Telling.all_succeed {replies : List (Reply Code)} (telling : Telling replies .value) :
    ∀ reply ∈ replies, reply.Succeeds :=
  telling.all_succeed_of_ne (fun same => by cases same) fun _ _ same => by cases same

/-- What the ending says of a failing sensor is what the last call came to. -/
theorem Telling.sensor_iff {replies : List (Reply Code)} {ending : Ending} {name : String}
    {failure : SensorFailure} (telling : Telling replies ending) :
    ending = .failed (.sensor name failure) ↔
      ∃ last, replies.getLast? = some last ∧ last.invocation.node.call.name = name ∧
        last.answer? = some (.error failure) := by
  cases telling with
  | smooth all other =>
      refine iff_of_false (other name failure) ?_
      rintro ⟨last, isLast, -, failed⟩
      rcases all last (List.mem_of_getLast? isLast) with ⟨value, answered⟩
      rw [answered] at failed
      cases failed
  | @broken earlier last all unsuccessful =>
      rw [List.getLast?_concat, Reply.ending_eq_sensor_iff]
      constructor
      · exact fun failed => ⟨last, rfl, failed⟩
      · rintro ⟨_, same, failed⟩
        cases same
        exact failed

theorem Telling.call {replies : List (Reply Code)} (telling : Telling replies .value)
    (reply : Reply Code) : Telling (replies ++ [reply]) reply.ending := by
  by_cases success : reply.Succeeds
  · rcases success with ⟨value, answered⟩
    have ended : reply.ending = .value := by rw [Reply.ending, answered]
    rw [ended]
    refine .smooth (fun other member => ?_) nofun
    rcases List.mem_append.mp member with early | last
    · exact telling.all_succeed other early
    · rcases List.mem_singleton.mp last with rfl
      exact ⟨value, answered⟩
  · exact .broken telling.all_succeed success

theorem Telling.append {before after : List (Reply Code)} {ending : Ending}
    (all : ∀ reply ∈ before, reply.Succeeds) (telling : Telling after ending) :
    Telling (before ++ after) ending := by
  cases telling with
  | smooth all' other =>
      refine .smooth (fun reply member => ?_) other
      exact (List.mem_append.mp member).elim (all reply) (all' reply)
  | broken all' unsuccessful =>
      rw [← List.append_assoc]
      refine .broken (fun reply member => ?_) unsuccessful
      exact (List.mem_append.mp member).elim (all reply) (all' reply)

theorem Telling.under {replies : List (Reply Code)} {ending : Ending}
    (telling : Telling replies ending) (index : Nat) :
    Telling (replies.map (Reply.under index)) ending := by
  cases telling with
  | smooth all other =>
      refine .smooth (fun reply member => ?_) other
      rcases List.mem_map.mp member with ⟨inner, isInner, rfl⟩
      exact all inner isInner
  | @broken earlier last all unsuccessful =>
      have moved : Telling (earlier.map (Reply.under index) ++ [last.under index])
          (last.under index).ending := by
        refine .broken (fun reply member => ?_) unsuccessful
        rcases List.mem_map.mp member with ⟨inner, isInner, rfl⟩
        exact all inner isInner
      rw [List.map_append]
      exact moved

namespace Regular

variable {visited later : List CallNode} {exchanges before after : List (Exchange Code)}
variable {ending : Ending}

/-- Where nothing is called there is nothing to keep to. -/
theorem nothing (silent : Exchange.replies exchanges = [])
    (other : ∀ name failure, ending ≠ .failed (.sensor name failure)) :
    Regular [] exchanges ending where
  ordered := by rw [Exchange.invoked, silent]; exact .slnil
  telling := by rw [silent]; exact .smooth (List.forall_mem_nil _) other
  fitting := by rw [silent]; exact List.forall_mem_nil _

theorem weaken (regular : Regular visited exchanges ending) (more : visited.Sublist later) :
    Regular later exchanges ending :=
  { regular with ordered := regular.ordered.trans more }

theorem append (first : Regular visited before .value) (second : Regular later after ending) :
    Regular (visited ++ later) (before ++ after) ending where
  ordered := by
    rw [Exchange.invoked_append]
    exact first.ordered.append second.ordered
  telling := by
    rw [Exchange.replies_append]
    exact second.telling.append first.telling.all_succeed
  fitting := by
    intro reply member
    rw [Exchange.replies_append] at member
    rcases List.mem_append.mp member with early | late
    · exact ⟨List.mem_append_left _ (first.fitting reply early).1, (first.fitting reply early).2⟩
    · exact ⟨List.mem_append_right _ (second.fitting reply late).1, (second.fitting reply late).2⟩

theorem under (regular : Regular visited exchanges ending) (index : Nat) :
    Regular (visited.map (CallNode.under index)) (exchanges.map (Exchange.under index)) ending where
  ordered := by
    rw [Exchange.invoked_under]
    exact regular.ordered.map (CallNode.under index)
  telling := by
    rw [Exchange.replies_under]
    exact regular.telling.under index
  fitting := by
    intro reply member
    rw [Exchange.replies_under] at member
    rcases List.mem_map.mp member with ⟨inner, isInner, rfl⟩
    rcases regular.fitting inner isInner with ⟨found, arity⟩
    exact ⟨List.mem_map.mpr ⟨_, found, rfl⟩, arity⟩

/-- A call is carried out after its definition was found and its arguments are known. -/
theorem call (regular : Regular visited exchanges .value) {reply : Reply Code}
    (fits : reply.FitsIn exchanges) :
    Regular (visited ++ [reply.invocation.node]) (exchanges ++ [.called reply]) reply.ending where
  ordered := by
    rw [Exchange.invoked_append]
    exact regular.ordered.append (.refl _)
  telling := by
    rw [Exchange.replies_append]
    exact regular.telling.call reply
  fitting := by
    intro other member
    rw [Exchange.replies_append] at member
    rcases List.mem_append.mp member with early | last
    · exact ⟨List.mem_append_left _ (regular.fitting other early).1,
        (regular.fitting other early).2⟩
    · rcases List.mem_singleton.mp last with rfl
      exact ⟨List.mem_append_left _ fits.1, fits.2⟩

end Regular

/-! ## Dialogues that keep to the rules -/

/-- All courses of a dialogue keep to the rules while they visit some calls. -/
def Steady {α : Type} (visited : List CallNode)
    (dialogue : ExceptT EvalError (Dialogue Code) α) : Prop :=
  ∀ exchanges outcome?, Dialogue.Course dialogue.run exchanges outcome? →
    Regular visited exchanges (.ofOutcome? outcome?)

namespace Steady

variable {α β : Type} {visited later : List CallNode}

theorem of_outcome {outcome : Except EvalError α}
    (other : ∀ name failure, outcome ≠ .error (.sensor name failure)) :
    Steady [] (liftM outcome : ExceptT EvalError (Dialogue Code) α) := by
  intro exchanges outcome? course
  rcases Dialogue.Course.of_outcome course with ⟨rfl, rfl⟩
  refine .nothing rfl fun name failure same => ?_
  cases outcome with
  | ok value => cases same
  | error error =>
      cases same
      exact other name failure rfl

theorem of_operated {outcome : Except EvalError α} (operated : Value.Operated outcome) :
    Steady [] (liftM outcome : ExceptT EvalError (Dialogue Code) α) :=
  of_outcome fun _ _ ended => operated _ ended

theorem pure (result : α) :
    Steady [] (Pure.pure result : ExceptT EvalError (Dialogue Code) α) :=
  of_operated (.ok result)

theorem weaken {dialogue : ExceptT EvalError (Dialogue Code) α}
    (steady : Steady visited dialogue) (more : visited.Sublist later) : Steady later dialogue :=
  fun exchanges outcome? course => (steady exchanges outcome? course).weaken more

theorem bind {first : ExceptT EvalError (Dialogue Code) α}
    {next : α → ExceptT EvalError (Dialogue Code) β}
    (begun : Steady visited first) (rest : ∀ value, Steady later (next value)) :
    Steady (visited ++ later) (first >>= next) := by
  intro exchanges outcome? course
  rcases Dialogue.Course.of_bindExcept course with
    ⟨broken, rfl⟩ | ⟨error, ended, rfl⟩ | ⟨before, after, value, rfl, ended, continued⟩
  · exact (begun exchanges none broken).weaken (List.sublist_append_left visited later)
  · exact (begun exchanges _ ended).weaken (List.sublist_append_left visited later)
  · exact (begun before _ ended).append (rest value after outcome? continued)

/-- As `bind`, where no question follows the first part. -/
theorem bind_silent {first : ExceptT EvalError (Dialogue Code) α}
    {next : α → ExceptT EvalError (Dialogue Code) β}
    (begun : Steady visited first) (rest : ∀ value, Steady [] (next value)) :
    Steady visited (first >>= next) := by
  rw [← List.append_nil visited]
  exact begun.bind rest

theorem about {dialogue : ExceptT EvalError (Dialogue Code) α}
    (steady : Steady visited dialogue) (index : Nat) :
    Steady (visited.map (CallNode.under index)) (Dialogue.about index dialogue) := by
  intro exchanges outcome? course
  rcases Dialogue.Course.of_within course with ⟨inner, rfl, inside⟩
  exact (steady inner outcome? inside).under index

end Steady

/-! ## Trees -/

theorem Definition.check_eq_ok {name : String} {count : Nat} {found : Option (Definition Code)}
    {definition : Definition Code} (checked : check name count found = .ok definition) :
    found = some definition ∧ definition.arity = count := by
  cases found with
  | none => cases checked
  | some other =>
      rw [check] at checked
      split at checked
      · next fits =>
        cases checked
        exact ⟨rfl, fits⟩
      · cases checked

theorem Definition.check_ne_sensor {name : String} {count : Nat}
    {found : Option (Definition Code)} (other : String) (failure : SensorFailure) :
    check name count found ≠ .error (.sensor other failure) := by
  intro failed
  cases found with
  | none => cases failed
  | some definition =>
      rw [check] at failed
      split at failed <;> cases failed

namespace Tree

/-- As many operands, so many values. -/
theorem length_of_course {trees : List Tree} {index : Nat} {exchanges : List (Exchange Code)}
    {values : List Value}
    (course : Dialogue.Course (dialogueAll index trees).run exchanges (some (.ok values))) :
    values.length = trees.length := by
  induction trees generalizing index exchanges values with
  | nil =>
      rw [dialogueAll] at course
      cases course
      rfl
  | cons tree rest induction =>
      rw [dialogueAll] at course
      rcases Dialogue.Course.of_bindExcept_ok course with ⟨_, _, value, -, -, others⟩
      rcases Dialogue.Course.of_bindExcept_ok others with ⟨_, _, following, -, known, ended⟩
      cases ended
      exact congrArg (· + 1) (induction known)

theorem dialogueAll_steady {trees : List Tree}
    (each : ∀ tree ∈ trees,
      Steady tree.postorder (tree.dialogue : ExceptT EvalError (Dialogue Code) Value))
    (index : Nat) :
    Steady (postorderAll index trees)
      (dialogueAll index trees : ExceptT EvalError (Dialogue Code) (List Value)) := by
  induction trees generalizing index with
  | nil =>
      rw [postorderAll, dialogueAll]
      exact .pure []
  | cons tree rest induction =>
      rw [postorderAll, dialogueAll]
      have others := induction fun other member => each other (List.mem_cons_of_mem tree member)
      refine ((each tree List.mem_cons_self).about index).bind fun value => ?_
      exact (others (index + 1)).bind_silent fun values => .pure (value :: values)

/-- How the course of a call can go. -/
inductive CallCourse (node : CallNode) (arguments : List Tree) :
    List (Exchange Code) → Ending → Prop where
  | unresolved : CallCourse node arguments [] .stopped
  | misfit {found : Option (Definition Code)} {error : EvalError}
      (checked : Definition.check node.call.name arguments.length found = .error error) :
      CallCourse node arguments [.resolved node found] (.failed error)
  | interrupted {definition : Definition Code} {inner : List (Exchange Code)}
      {values? : Option (Except EvalError (List Value))}
      (course : Dialogue.Course (dialogueAll 0 arguments).run inner values?)
      (early : Ending.ofOutcome? values? ≠ .value) :
      CallCourse node arguments (.resolved node (some definition) :: inner) (.ofOutcome? values?)
  | carriedOut {definition : Definition Code} {inner : List (Exchange Code)} {values : List Value}
      {reply : Reply Code}
      (arity : definition.arity = arguments.length)
      (course : Dialogue.Course (dialogueAll 0 arguments).run inner (some (.ok values)))
      (carried : reply.invocation = ⟨node, definition, values⟩) :
      CallCourse node arguments
        (.resolved node (some definition) :: (inner ++ [.called reply])) reply.ending

/-- A failing sensor becomes the error of the call. -/
theorem carry_course {invocation : Invocation Code} {exchanges : List (Exchange Code)}
    {outcome? : Option (Except EvalError Value)}
    (course : Dialogue.Course
      (do
        match ← (Dialogue.invoke invocation .done : Dialogue Code _) with
        | .ok value => pure value
        | .error failure => throw (.sensor invocation.node.call.name failure) :
        ExceptT EvalError (Dialogue Code) Value).run exchanges outcome?) :
    ∃ answer?, exchanges = [.called ⟨invocation, answer?⟩] ∧
      Ending.ofOutcome? outcome? = Reply.ending ⟨invocation, answer?⟩ := by
  rcases Dialogue.Course.of_bindExcept course with
    ⟨broken, rfl⟩ | ⟨error, ended, rfl⟩ | ⟨before, after, answer, rfl, answered, told⟩
  · rcases Dialogue.Course.of_invoke broken with ⟨_ | answer, rfl, same⟩
    · exact ⟨none, rfl, rfl⟩
    · cases same
  · rcases Dialogue.Course.of_invoke ended with ⟨_ | answer, rfl, same⟩
    · cases same
    · cases same
  · rcases Dialogue.Course.of_invoke answered with ⟨_ | other, rfl, same⟩
    · cases same
    · cases same
      cases answer with
      | ok value =>
          cases told
          exact ⟨some (.ok value), rfl, rfl⟩
      | error failure =>
          cases told
          exact ⟨some (.error failure), rfl, rfl⟩

/-- A call asks for its definition first, then for its arguments, and is carried out at last. -/
theorem call_course {name : String} {arguments : List Tree} {span : Span}
    {exchanges : List (Exchange Code)} {outcome? : Option (Except EvalError Value)}
    (course : Dialogue.Course (call name arguments span).dialogue.run exchanges outcome?) :
    CallCourse ⟨[], ⟨name, arguments.length, span⟩⟩ arguments exchanges (.ofOutcome? outcome?) := by
  rw [dialogue] at course
  rcases Dialogue.Course.of_bindExcept course with
    ⟨broken, rfl⟩ | ⟨error, ended, rfl⟩ | ⟨before, after, found, rfl, resolved, checking⟩
  · rcases Dialogue.Course.of_resolve broken with ⟨rfl, -⟩ | ⟨found, -, impossible⟩
    · exact .unresolved
    · cases impossible
  · rcases Dialogue.Course.of_resolve ended with ⟨-, impossible⟩ | ⟨found, -, impossible⟩
    · cases impossible
    · cases impossible
  rcases Dialogue.Course.of_resolve resolved with ⟨-, impossible⟩ | ⟨_, rfl, same⟩
  · cases impossible
  cases same
  rcases Dialogue.Course.of_bindExcept checking with
    ⟨broken, rfl⟩ | ⟨error, ended, rfl⟩ | ⟨before, rest, definition, rfl, checked, arguing⟩
  · cases (Dialogue.Course.of_outcome broken).2
  · rcases Dialogue.Course.of_outcome ended with ⟨rfl, checked⟩
    exact .misfit (Option.some.inj checked).symm
  rcases Dialogue.Course.of_outcome checked with ⟨rfl, fits⟩
  rcases Definition.check_eq_ok (Option.some.inj fits).symm with ⟨rfl, arity⟩
  rcases Dialogue.Course.of_bindExcept arguing with
    ⟨broken, rfl⟩ | ⟨error, ended, rfl⟩ | ⟨inner, last, values, rfl, known, carrying⟩
  · exact .interrupted broken fun impossible => by cases impossible
  · exact .interrupted ended fun impossible => by cases impossible
  rcases carry_course carrying with ⟨answer?, rfl, ending⟩
  rw [ending]
  exact .carriedOut arity known rfl

theorem call_steady {name : String} {arguments : List Tree} {span : Span}
    (inner : Steady (postorderAll 0 arguments)
      (dialogueAll 0 arguments : ExceptT EvalError (Dialogue Code) (List Value))) :
    Steady (call name arguments span).postorder
      ((call name arguments span).dialogue : ExceptT EvalError (Dialogue Code) Value) := by
  let node : CallNode := ⟨[], ⟨name, arguments.length, span⟩⟩
  intro exchanges outcome? course
  have resolved (found : Option (Definition Code)) : Regular [] [.resolved node found] .value :=
    .nothing rfl fun _ _ same => by cases same
  have calling := call_course course
  rw [postorder]
  generalize Ending.ofOutcome? outcome? = ending at calling
  cases calling with
  | unresolved =>
      exact (Regular.nothing rfl fun _ _ same => by cases same).weaken (List.nil_sublist _)
  | misfit checked =>
      refine (Regular.nothing rfl fun other failure same => ?_).weaken (List.nil_sublist _)
      cases same
      exact Definition.check_ne_sensor other failure checked
  | @interrupted definition _ _ argued early =>
      have arguing := (resolved (some definition)).append (inner _ _ argued)
      exact arguing.weaken (List.sublist_append_left _ _)
  | @carriedOut definition asked values reply arity argued carried =>
      have arguing := (resolved (some definition)).append (inner _ _ argued)
      have fits : reply.FitsIn ([.resolved node (some definition)] ++ asked) := by
        rw [Reply.FitsIn, carried]
        exact ⟨.head _, (length_of_course argued).trans arity.symm⟩
      have whole := arguing.call fits
      rw [carried] at whole
      exact whole

/-- The evaluation of a tree keeps to the rules. -/
theorem dialogue_steady (tree : Tree) :
    Steady tree.postorder (tree.dialogue : ExceptT EvalError (Dialogue Code) Value) := by
  induction tree with
  | literal value =>
      rw [postorder, dialogue]
      exact .pure value
  | call name arguments span each => exact call_steady (dialogueAll_steady each 0)
  | unary op operand induction =>
      rw [postorder, dialogue]
      exact (induction.about 0).bind_silent fun value =>
        .of_operated (value.applyUnary_operated op)
  | binary op left right leftInduction rightInduction =>
      have left := leftInduction.about 0
      have right := rightInduction.about 1
      rw [postorder]
      cases op with
      | and =>
          rw [dialogue]
          refine left.bind fun first => ?_
          refine (Steady.of_operated (first.requireLogical_operated .and)).bind fun truth => ?_
          cases truth with
          | true =>
              refine right.bind_silent fun second => ?_
              exact (Steady.of_operated (second.requireLogical_operated .and)).bind fun truth =>
                .pure (Value.boolean truth)
          | false => exact (Steady.pure (Value.boolean false)).weaken (List.nil_sublist _)
      | or =>
          rw [dialogue]
          refine left.bind fun first => ?_
          refine (Steady.of_operated (first.requireLogical_operated .or)).bind fun truth => ?_
          cases truth with
          | true => exact (Steady.pure (Value.boolean true)).weaken (List.nil_sublist _)
          | false =>
              refine right.bind_silent fun second => ?_
              exact (Steady.of_operated (second.requireLogical_operated .or)).bind fun truth =>
                .pure (Value.boolean truth)
      | _ =>
          -- All other operators ask for both operands, whatever their values are.
          simp only [dialogue]
          refine left.bind fun first => right.bind_silent fun second => ?_
          exact .of_operated (Value.applyBinary_operated _ first second)

end Tree

/-! ## Evaluation -/

section Evaluation

variable {ε σ : Type} (environment : Environment (EStateM ε σ) Code)

/-- The evaluation of a tree keeps to the rules in every environment. -/
theorem Tree.regular_exchanges (tree : Tree) (start : σ) :
    Regular tree.postorder (tree.exchanges environment start)
      (.ofOutcome? (Dialogue.result? ((tree.evaluate environment).run start))) := by
  have course := tree.dialogue.run.course_hold environment start
  rw [tree.hold_dialogue environment start] at course
  exact tree.dialogue_steady _ _ course

theorem Ending.ofOutcome?_eq_failed_iff {α : Type} {error : EvalError}
    {run : EStateM.Result ε σ (Except EvalError α)} :
    ofOutcome? (Dialogue.result? run) = .failed error ↔ ∃ later, run = .ok (.error error) later := by
  constructor
  · intro failed
    match run, failed with
    | .ok (.error _) later, rfl => exact ⟨later, rfl⟩
  · rintro ⟨later, rfl⟩
    rfl

end Evaluation

end Vigil
