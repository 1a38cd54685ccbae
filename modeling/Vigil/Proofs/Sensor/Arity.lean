import Mathlib.Data.List.Induction
import Vigil.Proofs.Context.Checking
import Vigil.Proofs.Expr.Regularity
import Vigil.Simulation.Board

/-!
# Functions get the arguments they were registered for

A registry is built by registrations: of single functions, of the built-in functions and of the
sensors of a board, in any order, where some may fail.  Sensors may register more functions while
they are being called, but nothing is ever taken back.

A definition stays what it was registered as.  So what a call was checked against before its arguments
were evaluated still holds when it is carried out, and built-in functions and the sensors of a board
never miss an argument.
-/

namespace Vigil

open Simulation (Board BoardSensor)

/-! ## Enough arguments -/

theorem Builtin.textAt_of_length {arguments : List Value} {count position : Nat}
    (enough : arguments.length = count) (inside : position < count) :
    ∃ text, textAt arguments position = .ok text := by
  rw [← enough] at inside
  rw [textAt, List.getElem?_eq_getElem inside]
  exact ⟨_, rfl⟩

/-- A built-in function that misses no argument gives a value. -/
theorem Builtin.apply_of_length {builtin : Builtin} {arguments : List Value}
    (enough : arguments.length = builtin.arity) : ∃ value, builtin.apply arguments = .ok value := by
  cases builtin with
  | contains | startsWith | endsWith =>
      rcases textAt_of_length enough Nat.zero_lt_two with ⟨whole, first⟩
      rcases textAt_of_length enough Nat.one_lt_two with ⟨part, second⟩
      rw [apply, test, first, second]
      exact ⟨_, rfl⟩
  | length | toLower | toUpper | trim =>
      rcases textAt_of_length enough Nat.one_pos with ⟨text, first⟩
      rw [apply, first]
      exact ⟨_, rfl⟩
  | isAbsent => exact ⟨_, rfl⟩

/-- A sensor of a board that misses no argument gives a value. -/
theorem Simulation.BoardSensor.answer_of_length {sensor : BoardSensor} {arguments : List Value}
    (enough : arguments.length = sensor.arity) (board : Board) :
    ∃ value, sensor.answer board arguments = .ok value := by
  cases sensor with
  | flag | counter =>
      rcases Builtin.textAt_of_length enough Nat.one_pos with ⟨text, first⟩
      rw [answer, first]
      exact ⟨_, rfl⟩
  | flagCount | counterTotal => exact ⟨_, rfl⟩

/-! ## Registrations -/

namespace Registry

variable {Code : Type} {registry : Registry Code}

theorem found_of_register {name : String} {definition other : Definition Code}
    {extended : Registry Code} (registered : registry.register definition = .ok extended)
    (found : extended.lookup? name = some other) :
    registry.lookup? name = some other ∨ other = definition := by
  rcases register_eq_ok_iff.mp registered with ⟨-, -, rfl⟩
  by_cases same : name = definition.name
  · rw [same, lookup?_add_self] at found
    cases found
    exact .inr rfl
  · rw [lookup?_add_ne same] at found
    exact .inl found

/-- Whatever stands in a registry was there before or was offered. -/
theorem found_of_registerAll {name : String} {definitions : List (Definition Code)}
    {definition : Definition Code}
    (found : (registry.registerAll definitions).1.lookup? name = some definition) :
    registry.lookup? name = some definition ∨ definition ∈ definitions := by
  induction definitions generalizing registry with
  | nil => exact .inl found
  | cons first rest induction =>
      rw [registerAll] at found
      split at found
      · next extended registered =>
        rcases induction found with early | late
        · rcases found_of_register registered early with old | rfl
          · exact .inl old
          · exact .inr List.mem_cons_self
        · exact .inr (List.mem_cons_of_mem first late)
      · exact .inl found

end Registry

/-- One step of building a registry, where a program may have sensors of its own. -/
inductive Registration (Custom : Type) where
  | function (name : String) (arity : Nat) (code : Custom)
  | builtins
  | board

namespace Registration

variable {Custom : Type}

/-- What a registration has to offer, in order. -/
def definitions : Registration Custom → List (Definition (BoardSensor ⊕ Custom))
  | function name arity code => [⟨name, arity, .host (.inr code)⟩]
  | builtins => Builtin.all.map .ofBuiltin
  | board => BoardSensor.all.map fun sensor => ⟨sensor.name, sensor.arity, .host (.inl sensor)⟩

/-- The registry after a registration, which stops at the first name that cannot be used. -/
def carryOut (registry : Registry (BoardSensor ⊕ Custom)) :
    Registration Custom → Registry (BoardSensor ⊕ Custom)
  | function name arity code =>
    match registry.register ⟨name, arity, .host (.inr code)⟩ with
    | .ok extended => extended
    | .error _ => registry
  | builtins => registry.registerBuiltins.1
  | board => (registry.registerAll (definitions board)).1

/-- The registry after some registrations. -/
def registry (registrations : List (Registration Custom)) : Registry (BoardSensor ⊕ Custom) :=
  registrations.foldl carryOut .empty

theorem carryOut_eq (registry : Registry (BoardSensor ⊕ Custom))
    (registration : Registration Custom) :
    carryOut registry registration = (registry.registerAll registration.definitions).1 := by
  cases registration with
  | function name arity code =>
      rw [carryOut, definitions, Registry.registerAll]
      cases registry.register ⟨name, arity, .host (.inr code)⟩ <;> rfl
  | builtins => rfl
  | board => rfl

/-- Registering more keeps what has been registered. -/
theorem registry_extends {registrations later : List (Registration Custom)}
    (more : registrations <+: later) : (registry registrations).Extends (registry later) := by
  rcases more with ⟨rest, rfl⟩
  rw [registry, registry, List.foldl_append]
  generalize registrations.foldl carryOut .empty = start
  induction rest generalizing start with
  | nil => exact .refl start
  | cons registration rest induction =>
      have step : start.Extends (carryOut start registration) :=
        carryOut_eq start registration ▸ start.extends_registerAll registration.definitions
      exact step.trans (induction _)

/-- Every definition of a registry was offered by a registration. -/
theorem offered_of_lookup? {registrations : List (Registration Custom)} {name : String}
    {definition : Definition (BoardSensor ⊕ Custom)}
    (found : (registry registrations).lookup? name = some definition) :
    ∃ registration ∈ registrations, definition ∈ registration.definitions := by
  induction registrations using List.reverseRecOn with
  | nil => cases found
  | append_singleton earlier last induction =>
      rw [registry, List.foldl_concat, carryOut_eq] at found
      rcases Registry.found_of_registerAll found with early | late
      · rcases induction early with ⟨registration, isEarly, offered⟩
        exact ⟨registration, List.mem_append_left _ isEarly, offered⟩
      · exact ⟨last, List.mem_concat_self, late⟩

/-- A definition says of its arity what its code was registered with. -/
def Registered (registrations : List (Registration Custom))
    (definition : Definition (BoardSensor ⊕ Custom)) : Prop :=
  match definition.body with
  | .builtin builtin => definition.arity = builtin.arity
  | .host (.inl sensor) => definition.arity = sensor.arity
  | .host (.inr code) => function definition.name definition.arity code ∈ registrations

theorem registered_of_lookup? {registrations : List (Registration Custom)} {name : String}
    {definition : Definition (BoardSensor ⊕ Custom)}
    (found : (registry registrations).lookup? name = some definition) :
    Registered registrations definition := by
  rcases offered_of_lookup? found with ⟨registration, among, offered⟩
  cases registration with
  | function name arity code =>
      rcases List.mem_singleton.mp offered with rfl
      exact among
  | builtins =>
      rcases List.mem_map.mp offered with ⟨builtin, -, rfl⟩
      exact (rfl : builtin.arity = builtin.arity)
  | board =>
      rcases List.mem_map.mp offered with ⟨sensor, -, rfl⟩
      exact (rfl : sensor.arity = sensor.arity)

end Registration

/-! ## Programs that evaluate -/

/--
A program in which expressions are evaluated: what has been registered, the board that the sensors
of a board look at, and what its own sensors do.  These may register more, but take nothing back.
-/
structure Surroundings (ε σ Custom : Type) where
  registrations : σ → List (Registration Custom)
  board : σ → Board
  answer : Custom → List Value → EStateM ε σ (Except SensorFailure Value)
  grows : ∀ code arguments state,
    registrations state <+: registrations (Dialogue.finalState (answer code arguments state))

namespace Surroundings

variable {ε σ Custom : Type} (surroundings : Surroundings ε σ Custom)

/-- The functions as they are registered in a state. -/
def registry (state : σ) : Registry (BoardSensor ⊕ Custom) :=
  Registration.registry (surroundings.registrations state)

/-- How expressions reach the functions of a program. -/
def environment : Environment (EStateM ε σ) (BoardSensor ⊕ Custom) where
  lookup? := fun name state => .ok ((surroundings.registry state).lookup? name) state
  call
    | .inl sensor, arguments => fun state =>
      .ok (sensor.answer (surroundings.board state) arguments) state
    | .inr code, arguments => surroundings.answer code arguments

theorem answer_of_builtin {definition : Definition (BoardSensor ⊕ Custom)} {builtin : Builtin}
    (body : definition.body = .builtin builtin) (arguments : List Value) (state : σ) :
    surroundings.environment.answer definition arguments state =
      .ok (builtin.apply arguments) state := by
  rw [Environment.answer, body]
  rfl

theorem answer_of_board {definition : Definition (BoardSensor ⊕ Custom)} {sensor : BoardSensor}
    (body : definition.body = .host (.inl sensor)) (arguments : List Value) (state : σ) :
    surroundings.environment.answer definition arguments state =
      .ok (sensor.answer (surroundings.board state) arguments) state := by
  rw [Environment.answer, body]
  rfl

/-- What is registered in one state is registered before the rest in another. -/
def Leads (first second : σ) : Prop :=
  surroundings.registrations first <+: surroundings.registrations second

theorem leads_refl (state : σ) : surroundings.Leads state state :=
  List.prefix_refl _

theorem leads_answer (definition : Definition (BoardSensor ⊕ Custom)) (arguments : List Value)
    (state : σ) :
    surroundings.Leads state
      (Dialogue.finalState (surroundings.environment.answer definition arguments state)) := by
  rcases definition with ⟨name, arity, builtin | sensor | code⟩
  · exact surroundings.leads_refl state
  · exact surroundings.leads_refl state
  · exact surroundings.grows code arguments state

/-- What was said in an evaluation was said in states that lead to the last one. -/
theorem happened (tree : Tree) (start : σ) :
    ∀ exchange ∈ tree.exchanges surroundings.environment start, ∃ moment,
      Dialogue.Happened surroundings.environment moment exchange ∧
        surroundings.Leads moment
          (Dialogue.finalState ((tree.evaluate surroundings.environment).run start)) := by
  have said := (Dialogue.happened_of_hold surroundings.environment surroundings.leads_refl
    List.IsPrefix.trans (fun _ state => surroundings.leads_refl state) surroundings.leads_answer
    tree.dialogue.run start).2
  rw [tree.hold_dialogue surroundings.environment start] at said
  exact said

/-- A call gets the arguments its code was registered for, and code that is at hand does not fail. -/
def Supplied (registrations : List (Registration Custom)) (reply : Reply (BoardSensor ⊕ Custom)) :
    Prop :=
  match reply.invocation.definition.body with
  | .builtin builtin => reply.invocation.arguments.length = builtin.arity ∧ reply.Succeeds
  | .host (.inl sensor) => reply.invocation.arguments.length = sensor.arity ∧ reply.Succeeds
  | .host (.inr code) =>
    .function reply.invocation.node.call.name reply.invocation.arguments.length code ∈
      registrations

theorem supplied {registrations : List (Registration Custom)}
    {reply : Reply (BoardSensor ⊕ Custom)} {moment : σ}
    (found : (Registration.registry registrations).lookup? reply.invocation.node.call.name =
      some reply.invocation.definition)
    (arity : reply.invocation.arguments.length = reply.invocation.definition.arity)
    (happened : Dialogue.Happened surroundings.environment moment (.called reply)) :
    Supplied registrations reply := by
  have registered := Registration.registered_of_lookup? found
  rw [Registration.Registered] at registered
  rw [Supplied]
  split at registered
  · next builtin body =>
    have enough := arity.trans registered
    rcases Builtin.apply_of_length enough with ⟨value, applied⟩
    have answered := surroundings.answer_of_builtin body reply.invocation.arguments moment
    rw [applied] at answered
    exact ⟨enough, happened.succeeds surroundings.environment answered⟩
  · next sensor body =>
    have enough := arity.trans registered
    rcases BoardSensor.answer_of_length enough (surroundings.board moment) with ⟨value, applied⟩
    have answered := surroundings.answer_of_board body reply.invocation.arguments moment
    rw [applied] at answered
    exact ⟨enough, happened.succeeds surroundings.environment answered⟩
  · next code body =>
    rw [arity, ← Registry.name_of_lookup? found]
    exact registered

theorem Supplied.own_of_failed {registrations : List (Registration Custom)}
    {reply : Reply (BoardSensor ⊕ Custom)} {failure : SensorFailure}
    (supplied : Supplied registrations reply) (failed : reply.answer? = some (.error failure)) :
    ∃ code, reply.invocation.definition.body = .host (.inr code) := by
  have unsuccessful : ¬reply.Succeeds := by
    rintro ⟨value, answered⟩
    cases failed.symm.trans answered
  rw [Supplied] at supplied
  split at supplied
  · exact absurd supplied.2 unsuccessful
  · exact absurd supplied.2 unsuccessful
  · next code body => exact ⟨code, body⟩

/-- The definition that a call was checked against is still the one of its name at the end. -/
theorem lookup?_of_replied {tree : Tree} {start : σ} {reply : Reply (BoardSensor ⊕ Custom)}
    (replied : reply ∈ Exchange.replies (tree.exchanges surroundings.environment start)) :
    (surroundings.registry
        (Dialogue.finalState ((tree.evaluate surroundings.environment).run start))).lookup?
          reply.invocation.node.call.name = some reply.invocation.definition := by
  have fits := (tree.regular_exchanges surroundings.environment start).fitting reply replied
  rcases surroundings.happened tree start _ fits.1 with ⟨moment, ⟨later, looked⟩, leads⟩
  injection looked with found
  exact Registration.registry_extends leads _ _ found

/--
Every call gets exactly as many arguments as its function was registered for, in whatever order
functions were registered and whatever sensors do meanwhile.  Built-in functions and the sensors of a
board therefore never fail, so that an evaluation that fails in a sensor does so in one of the
program's own.
-/
theorem calls_have_registered_arity (tree : Tree) (start : σ) :
    tree.dialogue.run.hold surroundings.environment start =
        (tree.exchanges surroundings.environment start,
          (tree.evaluate surroundings.environment).run start) ∧
      (∀ reply ∈ Exchange.replies (tree.exchanges surroundings.environment start),
        let final := Dialogue.finalState ((tree.evaluate surroundings.environment).run start)
        (surroundings.registry final).lookup? reply.invocation.node.call.name =
            some reply.invocation.definition ∧
          reply.invocation.arguments.length = reply.invocation.definition.arity ∧
          Supplied (surroundings.registrations final) reply) ∧
      ∀ name failure final,
        (tree.evaluate surroundings.environment).run start =
            .ok (.error (.sensor name failure)) final →
          ∃ arity code,
            (surroundings.registry final).lookup? name = some ⟨name, arity, .host (.inr code)⟩ := by
  have regular := tree.regular_exchanges surroundings.environment start
  have each : ∀ reply ∈ Exchange.replies (tree.exchanges surroundings.environment start),
      Supplied (surroundings.registrations
        (Dialogue.finalState ((tree.evaluate surroundings.environment).run start))) reply := by
    intro reply replied
    rcases List.mem_filterMap.mp replied with ⟨exchange, member, isReply⟩
    cases exchange with
    | resolved node found => cases isReply
    | called other =>
        cases isReply
        rcases surroundings.happened tree start _ member with ⟨moment, happened, -⟩
        exact surroundings.supplied (surroundings.lookup?_of_replied replied)
          (regular.fitting reply replied).2 happened
  refine ⟨tree.hold_dialogue surroundings.environment start, fun reply replied => ?_, ?_⟩
  · exact ⟨surroundings.lookup?_of_replied replied, (regular.fitting reply replied).2,
      each reply replied⟩
  · intro name failure final ended
    have broken := Ending.ofOutcome?_eq_failed_iff.mpr ⟨final, ended⟩
    rcases regular.telling.sensor_iff.mp broken with ⟨last, isLast, rfl, failed⟩
    have replied := List.mem_of_getLast? isLast
    rcases (each last replied).own_of_failed failed with ⟨code, body⟩
    have found := surroundings.lookup?_of_replied replied
    have named := Registry.name_of_lookup? found
    rw [ended] at found
    refine ⟨last.invocation.definition.arity, code, found.trans ?_⟩
    rw [← body, ← named]

/-- A program whose own sensor registers the built-in functions when it is called. -/
def latecomer : Surroundings Empty (List (Registration Unit)) Unit where
  registrations := id
  board := fun _ => .empty
  answer := fun _ _ state => .ok (.ok (.text "late")) (state ++ [Registration.builtins])
  grows := fun _ _ state => List.prefix_append state [Registration.builtins]

/-- The function on the right is registered while the operand on the left is evaluated. -/
theorem calls_have_registered_arity_latecomer :
    let tree : Tree :=
      .binary .eq (.call "late" [] ⟨0, 6⟩) (.call "strLen" [.literal (.text "late")] ⟨9, 23⟩)
    let replies := Exchange.replies (tree.exchanges latecomer.environment [.function "late" 0 ()])
    (replies.map fun reply => reply.invocation.node.call.name) = ["late", "strLen"] ∧
      ∀ reply ∈ replies,
        reply.invocation.arguments.length = reply.invocation.definition.arity :=
  ⟨by decide +kernel, fun reply replied =>
    ((latecomer.calls_have_registered_arity _ _).2.1 reply replied).2.1⟩

end Surroundings

end Vigil
