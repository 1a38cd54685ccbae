import Vigil.Proofs.Expr.Draft
import Vigil.Proofs.Expr.Mentions
import Vigil.Proofs.Settings.Validation

/-!
# What can be called

Whether a text is the name of a function is decided in four places, and each has rules of its own:
the language says which names are identifiers, the scanner which words it takes for functions, the
registry which names it accepts, and the settings which names may be configured.  They all mean the
same names.

The scanner finds a name in a text, and knows it by the parenthesis after it.  So it is asked
about the shortest text that could be a call.
-/

namespace Vigil

/-! ## Settings and the language -/

theorem Keyword.isSome_ofWord? (word : List Char) :
    (ofWord? word).isSome =
      Settings.reservedWords.any fun reserved => Text.sameIgnoringCase word reserved.toList := by
  rw [ofWord?, Option.isSome_map, List.isSome_find?]
  rfl

/-- It makes no difference whether reserved words are ruled out first or last. -/
theorem Settings.isFunctionName_eq (name : String) :
    isFunctionName name = Name.isIdentifier name := by
  rw [isFunctionName, Name.isIdentifier, Name.isKeyword, ← Keyword.isSome_ofWord?]
  cases (Keyword.ofWord? name.toList).isSome with
  | true =>
      rw [if_pos rfl]
      cases name.toList with
      | nil => rfl
      | cons first rest => exact (Bool.and_false _).symm
  | false =>
      rw [if_neg Bool.false_ne_true]
      cases name.toList with
      | nil => rfl
      | cons first rest => exact (Bool.and_true _).symm

/-! ## The scanner and the language -/

namespace Token

theorem ofWord?_of_wordKind {word rest : List Char} (function : wordKind word rest = .function) :
    Keyword.ofWord? word = none := by
  rw [wordKind] at function
  split at function
  · cases function
  · cases function
  · assumption

/-- A word that is taken for a function is an identifier. -/
theorem isIdentifier_of_next {first : Char} {rest value text after : List Char}
    (cut : next first rest = .lexeme .function value text after) :
    Name.isIdentifier (String.ofList value) = true := by
  simp only [next] at cut
  split at cut
  · split at cut <;> cases cut
  split at cut
  · cases cut
  split at cut
  · next start =>
    injection cut with kind same
    have parts : (rest.takeWhile Name.isPart).all Name.isPart = true := List.all_takeWhile
    rw [← same, Name.isIdentifier, Name.isKeyword, String.toList_ofList,
      ofWord?_of_wordKind kind]
    show (Name.isStart first && (rest.takeWhile Name.isPart).all Name.isPart && true) = true
    rw [start, parts]
    rfl
  -- No other token than a word is a function.
  · repeat' split at cut
    all_goals cases cut

/-- Every function token of a text holds an identifier. -/
theorem isIdentifier_of_scanFrom {offset : Nat} {characters : List Char} {tokens : List Token}
    (scanned : scanFrom offset characters = .ok tokens) :
    ∀ token ∈ tokens, token.kind = .function → Name.isIdentifier token.value = true := by
  fun_induction scanFrom offset characters generalizing tokens with
  | case1 =>
      cases scanned
      exact nofun
  | case2 offset first rest blank induction => exact induction scanned
  | case3 =>
      rename_i cut _ _ _ scanned' induction
      cases scanned
      intro token member function
      rcases List.mem_cons.mp member with rfl | later
      · cases function
        exact isIdentifier_of_next cut
      · exact induction scanned' token later function
  | case4 | case5 | case6 => cases scanned

theorem isIdentifier_of_tokenize {source : String} {tokens : List Token}
    (tokenized : tokenize source = .ok tokens) :
    ∀ token ∈ tokens, token.kind = .function → Name.isIdentifier token.value = true := by
  rw [tokenize] at tokenized
  cases scanned : scan source with
  | error failure =>
      rw [scanned] at tokenized
      cases tokenized
  | ok found =>
      rw [scanned] at tokenized
      cases tokenized
      exact isIdentifier_of_scanFrom scanned

/-- The tokens of a call without arguments, each with the bytes that it takes. -/
def callOf (name : String) (first second third : Span) : List Token :=
  [⟨.function, name, first⟩, ⟨.leftParen, "(", second⟩, ⟨.rightParen, ")", third⟩]

/-- A token is what was written, but for its place. -/
theorem eq_of_written {token : Token} {kind : TokenKind} {value : String}
    (sameKind : token.kind = kind) (sameText : token.value.toList = value.toList) :
    token = ⟨kind, value, token.span⟩ := by
  rw [← sameKind, ← String.toList_inj.mp sameText]

/-- The call of an identifier is scanned as such. -/
theorem tokenize_call (called : Identifier) :
    ∃ first second third,
      tokenize (called.name ++ "()") = .ok (callOf called.name first second third) := by
  have apart : (Lexeme.function called).EndsBefore ['(', ')'] := by
    rintro _ ⟨⟩
    show Name.isPart '(' = false
    decide
  have laid : Laid [.function called, .leftParen, .rightParen] (called.name ++ "()").toList := by
    rw [String.toList_append]
    exact .lexeme apart (.lexeme (fun _ _ => rfl) (.lexeme (fun _ _ => rfl) .nil))
  rcases scan_of_laid laid ⟨rfl, trivial⟩ with ⟨tokens, scanned, written⟩
  rcases WrittenAs.cons_iff.mp written with ⟨first, _, rfl, named, name, written⟩
  rcases WrittenAs.cons_iff.mp written with ⟨second, _, rfl, opened, left, written⟩
  rcases WrittenAs.cons_iff.mp written with ⟨third, _, rfl, closed, right, written⟩
  cases WrittenAs.nil_iff.mp written
  have function : first = ⟨.function, called.name, first.span⟩ := eq_of_written named name
  have opening : second = ⟨.leftParen, "(", second.span⟩ := eq_of_written opened left
  have closing : third = ⟨.rightParen, ")", third.span⟩ := eq_of_written closed right
  refine ⟨first.span, second.span, third.span, ?_⟩
  rw [tokenize, scanned, callOf, ← function, ← opening, ← closing]
  rfl

end Token

/-! ## The parser and the language -/

namespace Expression

/-- A call of an identifier is an expression, and this is all that it calls. -/
theorem parse_call {name : String} (valid : Name.isIdentifier name = true) :
    ∃ span,
      parse (name ++ "()") = .ok ⟨name ++ "()", .call name [] span⟩ ∧
        Token.namesIn (name ++ "()") = .ok [name] := by
  rcases Token.tokenize_call ⟨name, valid⟩ with ⟨first, second, third, tokenized⟩
  have derived : DerivesWithin maxNesting (Token.callOf name first second third)
      (.call name [] ⟨first.start, third.stop⟩) :=
    ⟨0, 1, by decide, (Derives.callWithout rfl rfl rfl).operand BinaryOp.loosest⟩
  have parsed := (parse_eq_ok_iff_derives tokenized).mpr derived
  exact ⟨_, parsed, namesIn_of_parse parsed⟩

/-- Whatever an expression calls is called by an identifier. -/
theorem isIdentifier_of_parse {source : String} {expression : Expression}
    (parsed : parse source = .ok expression) {call : Call} (inside : call ∈ expression.tree.calls) :
    Name.isIdentifier call.name = true := by
  rcases mentions_of_parse parsed with ⟨tokens, tokenized, same⟩
  have mentioned : (call.name, call.span.start) ∈ Token.mentions tokens := by
    rw [same]
    exact List.mem_map_of_mem inside
  rcases List.mem_map.mp mentioned with ⟨token, listed, equal⟩
  rcases List.mem_filter.mp listed with ⟨member, function⟩
  have named : token.value = call.name := congrArg Prod.fst equal
  rw [← named]
  exact Token.isIdentifier_of_tokenize tokenized token member (eq_of_beq function)

end Expression

/-! ## The registry and the language -/

/-- A registry that does not have a name accepts it if it is an identifier, and then has it. -/
theorem Registry.isIdentifier_iff_registered {Code : Type} {registry : Registry Code}
    {definition : Definition Code} (absent : registry.contains definition.name = false) :
    Name.isIdentifier definition.name = true ↔
      ∃ larger,
        registry.register definition = .ok larger ∧
          larger.lookup? definition.name = some definition := by
  constructor
  · intro valid
    exact ⟨_, register_eq_ok_iff.mpr ⟨valid, absent, rfl⟩, lookup?_add_self definition⟩
  · rintro ⟨larger, registered, -⟩
    exact (register_eq_ok_iff.mp registered).1

/-! ## Valid settings -/

namespace Settings

/-- A name stands in some settings where an event touches it or where it has a strategy. -/
def Names (settings : Settings) (name : String) : Prop :=
  (∃ event ∈ settings.events, name ∈ event.touches) ∨
    ∃ sensor ∈ settings.sensors, sensor.name = name

/-- All names in valid settings could be those of functions. -/
theorem isFunctionName_of_valid {settings : Settings} (accepted : settings.validate = .ok ())
    {name : String} (named : settings.Names name) : isFunctionName name = true := by
  have valid := settings.validate_eq_ok_iff.mp accepted
  rcases named with ⟨event, listed, touched⟩ | ⟨sensor, listed, rfl⟩
  · exact valid.touches event listed name touched
  · exact valid.sensorNames sensor listed

end Settings

/-! ## The theorem -/

/--
The four places agree about every text.  It is an identifier exactly if the settings take it for a
function name; exactly if a call of it is scanned to a function of this name and two parentheses;
and exactly if a registry without it accepts it.  So what is accepted by one of them can be called
and watched, and this includes all names in valid settings; and whatever an expression calls, all of
them accept.
-/
theorem function_names_agree (name : String) :
    (Name.isIdentifier name = true ↔ Settings.isFunctionName name = true) ∧
    (Name.isIdentifier name = true ↔
      ∃ first second third,
        Token.tokenize (name ++ "()") = .ok (Token.callOf name first second third)) ∧
    (∀ (Code : Type) (registry : Registry Code) (arity : Nat) (body : Body Code),
      registry.contains name = false →
        (Name.isIdentifier name = true ↔
          ∃ larger,
            registry.register ⟨name, arity, body⟩ = .ok larger ∧
              larger.lookup? name = some ⟨name, arity, body⟩)) ∧
    (Name.isIdentifier name = true →
      ∃ span,
        Expression.parse (name ++ "()") = .ok ⟨name ++ "()", .call name [] span⟩ ∧
          Token.namesIn (name ++ "()") = .ok [name]) ∧
    (∀ settings : Settings, settings.validate = .ok () → settings.Names name →
      Name.isIdentifier name = true) ∧
    ∀ source expression, Expression.parse source = .ok expression →
      name ∈ expression.functionNames → Name.isIdentifier name = true := by
  refine ⟨?settings, ?scanner, fun Code registry arity body => ?registry, Expression.parse_call,
    fun settings valid named => ?valid, fun source expression parsed called => ?calls⟩
  case settings => rw [Settings.isFunctionName_eq]
  case scanner =>
    constructor
    · intro valid
      exact Token.tokenize_call ⟨name, valid⟩
    · rintro ⟨first, second, third, tokenized⟩
      exact Token.isIdentifier_of_tokenize tokenized _ List.mem_cons_self rfl
  case registry => exact @Registry.isIdentifier_iff_registered Code registry ⟨name, arity, body⟩
  case valid =>
    rw [← Settings.isFunctionName_eq]
    exact Settings.isFunctionName_of_valid valid named
  case calls =>
    rcases Expression.mem_functionNames.mp called with ⟨call, inside, rfl⟩
    exact Expression.isIdentifier_of_parse parsed inside

/-- One event that touches a function whose name has points and capitals. -/
def Settings.lowBattery : Settings :=
  { Settings.default with events := [⟨"battery.low", ["Battery.level_2"]⟩] }

theorem function_names_agree_pointed :
    Settings.lowBattery.validate = .ok () ∧ Settings.lowBattery.Names "Battery.level_2" ∧
    Settings.isFunctionName "Battery.level_2" = true ∧
    (∃ first second third,
      Token.tokenize "Battery.level_2()" =
        .ok (Token.callOf "Battery.level_2" first second third)) ∧
    (Registry.empty : Registry Empty).contains "Battery.level_2" = false ∧
    (∃ larger : Registry Empty,
      Registry.empty.register ⟨"Battery.level_2", 0, .builtin .length⟩ = .ok larger) ∧
    (∃ span,
      Expression.parse "Battery.level_2()" =
        .ok ⟨"Battery.level_2()", .call "Battery.level_2" [] span⟩) ∧
    Name.isIdentifier "Battery.level_2" = true := by
  have faultless : Settings.lowBattery.fault? = none := by decide +kernel
  have valid : Settings.lowBattery.validate = .ok () := by rw [Settings.validate, faultless]
  have named : Settings.lowBattery.Names "Battery.level_2" := .inl ⟨_, .head _, .head _⟩
  have absent : (Registry.empty : Registry Empty).contains "Battery.level_2" = false := rfl
  rcases function_names_agree "Battery.level_2" with
    ⟨configured, scanned, registered, called, settings, calls⟩
  have identifier := settings _ valid named
  rcases (registered Empty .empty 0 (.builtin .length) absent).mp identifier with
    ⟨larger, accepted, -⟩
  rcases called identifier with ⟨span, parsed, watched⟩
  rw [Expression.namesIn_of_parse parsed] at watched
  have inside := Except.ok.inj watched ▸ List.mem_singleton_self "Battery.level_2"
  exact ⟨valid, named, configured.mp identifier, scanned.mp identifier, absent, ⟨larger, accepted⟩,
    ⟨span, parsed⟩, calls _ _ parsed inside⟩

/-- A reserved word is none, whatever the case of its letters. -/
example : Name.isIdentifier "nOt" = false := by decide +kernel

end Vigil
