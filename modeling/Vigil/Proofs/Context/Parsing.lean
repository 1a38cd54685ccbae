import Vigil.Context

/-!
# Parsing in a context

A context reads texts through its cache.  A cache is sound when each expression that it keeps is
what its source text parses to.  Reading through a sound cache comes to the same as parsing, and
leaves it sound, so whether a text compiles depends only on its expression and on the functions
that are registered.
-/

namespace Vigil

theorem Expression.source_of_parse {source : String} {expression : Expression}
    (parsed : parse source = .ok expression) : expression.source = source := by
  rw [parse] at parsed
  split at parsed
  · cases parsed
    rfl
  · cases parsed

namespace ParseCache

/-- What is kept is what its text parses to. -/
def Sound (cache : ParseCache) : Prop :=
  ∀ source parsed, cache.get? source = some parsed →
    Expression.parse source = .ok parsed.expression

theorem new_sound (capacity : Nat) : (new capacity).Sound := by
  intro source parsed found
  cases found

/-- Making room adds nothing. -/
theorem get?_of_makeRoom {capacity : Nat} {entries : Table String Parsed} {queue : List String}
    {source : String} {parsed : Parsed}
    (found : (makeRoom capacity entries queue).1.get? source = some parsed) :
    entries.get? source = some parsed := by
  induction queue generalizing entries with
  | nil => exact found
  | cons oldest rest induction =>
      rw [makeRoom] at found
      split at found
      · exact found
      · have remains := induction found
        by_cases gone : source = oldest
        · rw [gone, Table.get?_erase_self] at remains
          cases remains
        · rwa [Table.get?_erase_ne entries gone] at remains

namespace Sound

variable {cache : ParseCache} (sound : cache.Sound)
include sound

theorem insert {parsed : Parsed}
    (read : Expression.parse parsed.expression.source = .ok parsed.expression) :
    (cache.insert parsed).Sound := by
  rw [ParseCache.insert]
  split
  · exact sound
  · intro source other found
    by_cases new : source = parsed.expression.source
    · rw [new, get?, Table.get?_put_self] at found
      cases found
      rw [new]
      exact read
    · rw [get?, Table.get?_put_ne _ _ new] at found
      exact sound source other (get?_of_makeRoom found)

/-- It makes no difference to the expression whether it is parsed or found. -/
theorem parse_outcome (source : String) :
    (cache.parse source).1.map Parsed.expression = Expression.parse source := by
  rw [ParseCache.parse]
  split
  · next parsed found => exact (sound source parsed found).symm
  · split
    · next error failed => exact failed.symm
    · next expression read => exact read.symm

theorem parse (source : String) : (cache.parse source).2.Sound := by
  rw [ParseCache.parse]
  split
  · exact sound
  · split
    · exact sound
    · next expression read =>
      refine sound.insert ?_
      rw [Expression.source_of_parse read]
      exact read

end Sound

end ParseCache

/-- What compiling a text comes to where these functions are registered. -/
def Registry.compile {Code : Type} (registry : Registry Code) (source : String) :
    Except ConditionError Expression :=
  match Expression.parse source with
  | .error error => .error (.invalid error)
  | .ok expression =>
    match expression.tree.check registry with
    | .error error => .error (.evaluation error)
    | .ok () => .ok expression

theorem Registry.compile_eq_ok_iff {Code : Type} {registry : Registry Code} {source : String}
    {expression : Expression} :
    registry.compile source = .ok expression ↔
      Expression.parse source = .ok expression ∧ expression.tree.check registry = .ok () := by
  rw [compile]
  cases Expression.parse source with
  | error error => simp
  | ok read =>
      cases checked : read.tree.check registry with
      | error error =>
          simp only [checked, reduceCtorEq, Except.ok.injEq, false_iff, not_and]
          rintro rfl
          rw [checked]
          exact nofun
      | ok =>
          simp only [checked, Except.ok.injEq, iff_self_and]
          rintro rfl
          exact checked

namespace Context

variable {host : Host}

/-- Compiling changes a context as parsing does. -/
theorem compile_context (context : Context host) (source : String) :
    (context.compile source).2 = (context.parse source).2 := by
  rw [compile]
  rcases context.parse source with ⟨outcome, later⟩
  cases outcome with
  | error error => rfl
  | ok parsed => dsimp only; split <;> rfl

variable {context : Context host} (sound : context.cache.Sound) {source : String}
include sound

/-- Errors are found anew each time, and nothing is kept of them. -/
theorem parse_of_unread {error : SyntaxError} (failed : Expression.parse source = .error error) :
    context.cache.get? source = none ∧ context.parse source = (.error error, context) := by
  have absent : context.cache.get? source = none := by
    cases found : context.cache.get? source with
    | none => rfl
    | some parsed =>
        rw [sound source parsed found] at failed
        cases failed
  rw [parse, ParseCache.parse, absent, failed]
  exact ⟨rfl, rfl⟩

theorem compile_of_unread {error : SyntaxError} (failed : Expression.parse source = .error error) :
    context.compile source = (.error (.invalid error), (context.parse source).2) := by
  have outcome := sound.parse_outcome source
  rw [failed] at outcome
  rw [compile, parse]
  rcases found : context.cache.parse source with ⟨other | parsed, cache⟩
  · rw [found] at outcome
    cases outcome
    rfl
  · rw [found] at outcome
    cases outcome

variable {expression : Expression} (read : Expression.parse source = .ok expression)
include read

/-- A text that is an expression is found or read, and then its calls are checked. -/
theorem compile_of_read :
    ∃ number,
      context.compile source =
        match expression.tree.check context.registry with
        | .error error => (.error (.evaluation error), (context.parse source).2)
        | .ok () => (.ok ⟨expression, number⟩, (context.parse source).2) := by
  have outcome := sound.parse_outcome source
  rw [read] at outcome
  rw [compile, parse]
  rcases found : context.cache.parse source with ⟨other | parsed, cache⟩
  · rw [found] at outcome
    cases outcome
  · rw [found] at outcome
    cases outcome
    exact ⟨parsed.number, rfl⟩

theorem compile_of_unchecked {error : EvalError}
    (failed : expression.tree.check context.registry = .error error) :
    context.compile source = (.error (.evaluation error), (context.parse source).2) := by
  rcases compile_of_read sound read with ⟨number, compiled⟩
  rw [compiled, failed]

theorem compile_of_checked (checked : expression.tree.check context.registry = .ok ()) :
    ∃ number, context.compile source = (.ok ⟨expression, number⟩, (context.parse source).2) := by
  rcases compile_of_read sound read with ⟨number, compiled⟩
  rw [checked] at compiled
  exact ⟨number, compiled⟩

omit read in
/-- Whether a text compiles, and to what, depends on the functions alone. -/
theorem compile_eq (source : String) :
    (context.compile source).1.map Parsed.expression = context.registry.compile source := by
  rw [Registry.compile]
  cases read : Expression.parse source with
  | error error =>
      rw [compile_of_unread sound read]
      rfl
  | ok expression =>
      rcases compile_of_read sound read with ⟨number, compiled⟩
      rw [compiled]
      dsimp only
      cases expression.tree.check context.registry <;> rfl

omit read in
/-- A text compiles, or it is no expression whose calls fit.  Only the cache changes. -/
theorem compile_cases (source : String) :
    (∃ error,
      context.compile source = (.error error, (context.parse source).2) ∧
        ∀ expression, Expression.parse source = .ok expression →
          expression.tree.check context.registry ≠ .ok ()) ∨
    ∃ expression number,
      context.compile source = (.ok ⟨expression, number⟩, (context.parse source).2) ∧
        Expression.parse source = .ok expression ∧
        expression.tree.check context.registry = .ok () := by
  cases read : Expression.parse source with
  | error error => exact .inl ⟨_, compile_of_unread sound read, nofun⟩
  | ok expression =>
      cases checked : expression.tree.check context.registry with
      | error error =>
          refine .inl ⟨_, compile_of_unchecked sound read checked, ?_⟩
          rintro _ ⟨⟩
          rw [checked]
          exact nofun
      | ok =>
          rcases compile_of_checked sound read checked with ⟨number, compiled⟩
          exact .inr ⟨expression, number, compiled, rfl, checked⟩

end Context

end Vigil
