import Vigil.Proofs.Context.Checking
import Vigil.Proofs.Context.Parsing
import Vigil.Proofs.Expr.Recognition
import Vigil.Proofs.Value.Operators
import Vigil.Proofs.Watch.History

/-!
# What has been compiled stays sound

Compiling checks every call of an expression against the registry of that moment.  No operation
takes a function out of a registry or changes it, so the calls fit from then on, and evaluating the
expression never fails for want of a function or of an argument: not in a later world, not where
sensors change the registry while the evaluation runs, and whatever they answer.

An action is `Guarded` by some calls if it lets worlds evolve and, in a world which these calls fit,
ends in no error that checking could have found.  `evaluate_guarded` is the induction over trees.
-/

namespace Vigil

/-! ## Outcomes that no check foresees -/

/-- Operators know nothing of functions. -/
theorem EvalError.OfOperator.not_isMisfit {error : EvalError} (own : error.OfOperator) :
    ¬error.IsMisfit := by
  cases error with
  | unknownFunction | arityMismatch => exact own.elim
  | cannotApply | divisionByZero | sensor => exact id

namespace Value

/-- An outcome that is no error which checking could have found. -/
def Sound {α : Type} (outcome : Except EvalError α) : Prop :=
  ∀ error, outcome = .error error → ¬error.IsMisfit

theorem Sound.ok {α : Type} (value : α) : Sound (.ok value) := by
  intro error impossible
  cases impossible

theorem Sound.error {α : Type} {error : EvalError} (sound : ¬error.IsMisfit) :
    Sound (.error error : Except EvalError α) := by
  intro other same
  cases same
  exact sound

end Value

namespace Hosting

variable {host : Host}

/-! ## Registries of worlds grow -/

theorem World.Step.extends {before after : World host} (step : before.Step after) :
    before.context.registry.Extends after.context.registry := by
  have unchanged {later : World host} (same : later.context.registry = before.context.registry) :
      before.context.registry.Extends later.context.registry := by
    rw [same]
    exact .refl _
  cases step with
  | register name arity code =>
      rw [Context.register]
      split
      · exact .refl _
      · next registered => exact Registry.extends_of_register registered
  | registerBuiltins =>
      exact Registry.extends_registerAll before.context.registry
        (Builtin.all.map Definition.ofBuiltin)
  | subscribe source callback =>
      rcases before.subscribe_cases source callback with
        ⟨error, failed⟩ | ⟨names, journal, found, subscribed⟩
      · exact unchanged (by rw [failed])
      · exact unchanged (by rw [subscribed]; rfl)
  | unsubscribe id =>
      rcases before.unsubscribe_cases id with unknown | ⟨names, journal, known, unsubscribed⟩
      · exact unchanged (by rw [unknown])
      · exact unchanged (by rw [unsubscribed]; rfl)
  | bindEvent event names =>
      refine unchanged ?_
      show (before.context.bindEvent event names).registry = _
      rw [Context.bindEvent]
      split <;> rfl
  | addProbe sensor code =>
      refine unchanged ?_
      show (before.context.addProbe sensor code).2.registry = _
      rw [Context.addProbe]
      split
      · rfl
      · split <;> rfl
  | observe samples =>
      exact unchanged (view_observeAll _ (fun _ _ => rfl) (fun _ _ _ _ => rfl) samples)
  | _ => exact .refl _

theorem World.Evolves.extends {before after : World host} (evolves : before.Evolves after) :
    before.context.registry.Extends after.context.registry := by
  induction evolves with
  | refl => exact .refl _
  | tail _ step induction => exact induction.trans step.extends

/-- A world whose registry some calls fit. -/
def World.Suits (world : World host) (calls : List Call) : Prop :=
  ∀ call ∈ calls, call.Fits world.context.registry

theorem World.Suits.evolves {before after : World host} {calls : List Call}
    (suits : before.Suits calls) (evolves : before.Evolves after) : after.Suits calls :=
  fun call member => (suits call member).extends evolves.extends

/-! ## Guarded actions -/

/-- An action that ends in no error which checking the calls could have found. -/
structure Guarded {α : Type} (calls : List Call) (action : ExceptT EvalError (Action host) α) :
    Prop where
  linked : Action.Linked World.Evolves action.run
  sound : ∀ world : World host, world.Suits calls →
    ∀ error later, action.run world = .ok (.error error) later → ¬error.IsMisfit

namespace Guarded

variable {α β : Type} {calls : List Call}

theorem of_outcome {outcome : Except EvalError α} (sound : Value.Sound outcome) :
    Guarded calls (liftM outcome : ExceptT EvalError (Action host) α) where
  linked := .pure World.linking_evolves outcome
  sound := by
    intro world suits error later ended
    cases ended
    exact sound error rfl

theorem of_operated {outcome : Except EvalError α} (operated : Value.Operated outcome) :
    Guarded calls (liftM outcome : ExceptT EvalError (Action host) α) :=
  of_outcome fun error ended => (operated error ended).not_isMisfit

theorem pure (result : α) :
    Guarded calls (Pure.pure result : ExceptT EvalError (Action host) α) :=
  of_outcome (.ok result)

theorem lift {action : Action host α} (linked : Action.Linked World.Evolves action) :
    Guarded calls (liftM action : ExceptT EvalError (Action host) α) where
  linked := .lift World.linking_evolves linked
  sound := by
    intro world suits error later ended
    obtain ⟨result, middle, begun, impossible⟩ := Action.bind_eq_ok ended
    cases impossible

theorem bind {action : ExceptT EvalError (Action host) α}
    {next : α → ExceptT EvalError (Action host) β}
    (first : Guarded calls action) (second : ∀ result, Guarded calls (next result)) :
    Guarded calls (action >>= next) where
  linked := .bindExcept World.linking_evolves first.linked fun result => (second result).linked
  sound := by
    intro world suits error later ended
    obtain ⟨outcome, middle, begun, resumed⟩ := Action.bind_eq_ok ended
    cases outcome with
    | error other =>
        cases resumed
        exact first.sound world suits error later begun
    | ok result =>
        have evolved : world.Evolves middle :=
          Action.after_of_ok begun ▸ first.linked world
        exact (second result).sound middle (suits.evolves evolved) error later resumed

end Guarded

/-! ## Evaluation -/

section Evaluation

variable {sensor : Context.SensorRunner host (Action host)}
variable {calls : List Call}

/-- A call that fits is resolved whatever else has been registered in the meantime. -/
theorem resolve_guarded {call : Call} (member : call ∈ calls) :
    Guarded calls (do
      let found ← (Context.environment sensor).lookup? call.name
      (Definition.check call.name call.argumentCount found : Except EvalError _) :
      ExceptT EvalError (Action host) _) where
  linked := by
    have linking : World.Linking (World.Evolves : World host → World host → Prop) :=
      World.linking_evolves
    refine .bindExcept linking (.lift linking ?_) fun found => .pure linking _
    exact .bind linking (.look linking) fun context => .pure linking _
  sound := by
    intro world suits error later ended
    rcases (suits call member).check with ⟨definition, resolved⟩
    have failed : EStateM.Result.ok
        (Definition.check call.name call.argumentCount
          (world.context.registry.lookup? call.name)) world = .ok (.error error) later := ended
    rw [resolved] at failed
    cases failed

theorem evaluateAll_guarded {trees : List Tree}
    (each : ∀ tree ∈ trees, Guarded calls (tree.evaluate (Context.environment sensor))) :
    Guarded calls (Tree.evaluateAll (Context.environment sensor) trees) := by
  induction trees with
  | nil =>
      rw [Tree.evaluateAll]
      exact .pure []
  | cons tree rest induction =>
      rw [Tree.evaluateAll]
      refine (each tree List.mem_cons_self).bind fun value => ?_
      refine (induction fun other member => ?_).bind fun values => .pure (value :: values)
      exact each other (List.mem_cons_of_mem tree member)

variable (linked : ∀ code arguments, Action.Linked World.Evolves (sensor code arguments))
include linked

/-- Evaluating a tree is guarded by its calls. -/
theorem evaluate_guarded {tree : Tree} (listed : tree.calls ⊆ calls) :
    Guarded calls (tree.evaluate (Context.environment sensor)) := by
  induction tree with
  | literal value =>
      rw [Tree.evaluate]
      exact .pure value
  | call name arguments span each =>
      rw [Tree.calls, Tree.callsOfAll_eq_flatMap] at listed
      have member : ⟨name, arguments.length, span⟩ ∈ calls := listed List.mem_cons_self
      have inside : ∀ argument ∈ arguments, argument.calls ⊆ calls := by
        intro argument isArgument call isCall
        exact listed (List.mem_cons_of_mem _ (List.mem_flatMap.mpr ⟨argument, isArgument, isCall⟩))
      rw [Tree.evaluate, ← bind_assoc]
      refine (resolve_guarded member).bind fun definition => ?_
      refine (evaluateAll_guarded fun argument isArgument => ?_).bind fun values => ?_
      · exact each argument isArgument (inside argument isArgument)
      · have answered : Action.Linked World.Evolves
            ((Context.environment sensor).answer definition values) :=
          answer_linked World.linking_evolves (fun code arguments => linked code arguments)
            definition values
        refine (Guarded.lift answered).bind fun outcome => ?_
        cases outcome with
        | ok value => exact .pure value
        | error failure => exact .of_outcome (.error id)
  | unary op operand induction =>
      rw [Tree.evaluate]
      exact (induction listed).bind fun value => .of_operated (value.applyUnary_operated op)
  | binary op left right leftInduction rightInduction =>
      rw [Tree.calls] at listed
      have first := leftInduction fun call member => listed (List.mem_append_left _ member)
      have second := rightInduction fun call member => listed (List.mem_append_right _ member)
      cases op with
      | and =>
          rw [Tree.evaluate]
          refine first.bind fun value => ?_
          refine (Guarded.of_operated (value.requireLogical_operated .and)).bind fun truth => ?_
          cases truth with
          | true =>
              refine second.bind fun value => ?_
              exact (Guarded.of_operated (value.requireLogical_operated .and)).bind fun truth =>
                .pure _
          | false => exact .pure _
      | or =>
          rw [Tree.evaluate]
          refine first.bind fun value => ?_
          refine (Guarded.of_operated (value.requireLogical_operated .or)).bind fun truth => ?_
          cases truth with
          | true => exact .pure _
          | false =>
              refine second.bind fun value => ?_
              exact (Guarded.of_operated (value.requireLogical_operated .or)).bind fun truth =>
                .pure _
      | _ =>
          simp only [Tree.evaluate]
          refine first.bind fun value => second.bind fun value' => ?_
          exact .of_operated (Value.applyBinary_operated _ value value')

end Evaluation

/-- What has been compiled suits every world that the context evolves to. -/
theorem suits_of_compile
    {before after : Context host} {source : String} {parsed : Parsed}
    (compiled : before.compile source = (.ok parsed, after))
    {events : List (Event host)} {world : World host}
    (evolves : World.Evolves ⟨after, events⟩ world) :
    world.Suits parsed.expression.tree.calls := by
  refine World.Suits.evolves ?_ evolves
  rw [Context.compile] at compiled
  rcases read : before.parse source with ⟨outcome, later⟩
  rw [read] at compiled
  cases outcome with
  | error error => cases compiled
  | ok found =>
      dsimp only at compiled
      split at compiled
      · cases compiled
      · next checked =>
        cases compiled
        exact Tree.check_eq_ok_iff.mp checked

/--
Compiling is a lasting guarantee.  In every world that a context can evolve to after it has compiled
a text, evaluating the expression ends in no error that checking could have found, whatever the
sensors do and answer.  Checking a tree fails exactly if one of its calls does not fit the registry,
whether or not evaluation would come to it, and reports the first of those that do not.
-/
theorem compiled_calls_fit_forever
    {before after : Context host} {source : String} {parsed : Parsed}
    (compiled : before.compile source = (.ok parsed, after)) :
    (∀ (events : List (Event host)) (world : World host), World.Evolves ⟨after, events⟩ world →
      ∀ (program : Program host) depth error final,
        Context.evaluate (program.handlers depth).sensor parsed.expression world =
            .ok (.error error) final →
          ¬error.IsMisfit) ∧
    ∀ (registry : Registry host.Sensor) (tree : Tree),
      ((∃ error, tree.check registry = .error error) ↔
        ∃ call ∈ tree.calls, ¬call.Fits registry) ∧
      ∀ error,
        tree.check registry = .error error ↔
          ∃ before call after,
            tree.calls = before ++ call :: after ∧
              (∀ earlier ∈ before, earlier.Fits registry) ∧
              call.misfit? registry = some error := by
  refine ⟨?_, fun registry tree => ⟨Tree.check_fails_iff, fun error => Tree.check_eq_error_iff⟩⟩
  intro events world evolves program depth error final ended
  have suits := suits_of_compile compiled evolves
  have guarded := evaluate_guarded (program.handlers_evolving depth).sensor
    (List.Subset.refl parsed.expression.tree.calls)
  exact guarded.sound world suits error final ended

/-- A context with the built-in functions. -/
def Errand.equipped : Context office :=
  Errand.idle.context.registerBuiltins.2

/-- The compiled text is evaluated after the built-in functions were registered in vain again. -/
theorem compiled_calls_fit_forever_equipped :
    (∃ parsed after,
      Errand.equipped.compile "not strLen('ab')" = (.ok parsed, after) ∧
        ∀ error final,
          Context.evaluate (Errand.program.handlers 1).sensor parsed.expression
              ⟨after.registerBuiltins.2, []⟩ = .ok (.error error) final →
            ¬error.IsMisfit) ∧
    Tree.check Errand.equipped.registry
        (.binary .or (.literal (.boolean true)) (.call "f" [] ⟨8, 11⟩)) =
      .error (.unknownFunction "f") := by
  have argument : Derives .arguments 0 [⟨.string, "ab", ⟨11, 15⟩⟩] [.literal (.text "ab")] :=
    .lastArgument (.tighter (.tighter (.tighter (.tighter (.tighter (.tighter (.literal rfl)))))))
  have called : Derives (.expression 0 0) 1
      [⟨.function, "strLen", ⟨4, 10⟩⟩, ⟨.leftParen, "(", ⟨10, 11⟩⟩, ⟨.string, "ab", ⟨11, 15⟩⟩,
        ⟨.rightParen, ")", ⟨15, 16⟩⟩]
      [.call "strLen" [.literal (.text "ab")] ⟨4, 16⟩] :=
    argument.callWith rfl rfl rfl
  have negated : Derives (.expression 0 0) 2 (⟨.operator .not, "not", ⟨0, 3⟩⟩ :: _)
      [.unary .not (.call "strLen" [.literal (.text "ab")] ⟨4, 16⟩)] :=
    called.unary rfl
  have derived : DerivesWithin maxNesting _ _ :=
    ⟨0, 2, by decide, negated.tighter.tighter.tighter.tighter.tighter.tighter⟩
  have parsed : Expression.parse "not strLen('ab')" = .ok _ :=
    Expression.parse_of_scan (by decide +kernel) (Tree.ofTokens_eq_ok_iff.mpr derived)
  have sound : Errand.equipped.cache.Sound := ParseCache.new_sound _
  have checked : Tree.check Errand.equipped.registry
      (.unary .not (.call "strLen" [.literal (.text "ab")] ⟨4, 16⟩)) = .ok () :=
    eq_ok_of_toOption (by decide +kernel)
  obtain ⟨number, compiled⟩ := Context.compile_of_checked sound parsed checked
  have lasting := compiled_calls_fit_forever compiled
  refine ⟨⟨_, _, compiled, ?_⟩, ?_⟩
  · intro error final ended
    have again := World.Step.registerBuiltins
      (⟨(Errand.equipped.parse "not strLen('ab')").2, []⟩ : World Errand.office)
    exact lasting.1 [] _ again.evolves Errand.program 1 error final ended
  · refine ((lasting.2 _ _).2 _).mpr ⟨[], ⟨"f", 0, ⟨8, 11⟩⟩, [], rfl, ?_, by decide⟩
    intro earlier impossible
    cases impossible

end Hosting

end Vigil
