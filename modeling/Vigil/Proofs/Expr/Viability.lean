import Vigil.Proofs.Expr.Cut
import Vigil.Proofs.Expr.Draft

/-!
# Where syntax errors are reported

A source that has tokens but is no expression is faulty at a place up to which it is still the
beginning of an expression.  What the reader has taken up to there is completed with a value,
where one is missing, and with the parentheses that are open.  Neither needs a level of nesting,
so the completed expression is nested no deeper than what was read.

The argument follows the reader: `Tree.ofTier_viable` and its companions say for each of its
functions that the tokens before the fault can be completed to what the function was to read.
`Expression.error_position_is_viable` carries this over to texts.
-/

namespace Vigil

/-! ## Completions -/

/-- What completes the beginning of an expression: values and closing parentheses. -/
def Lexeme.Completing (lexemes : List Lexeme) : Prop :=
  ∀ lexeme ∈ lexemes, (∃ written, lexeme = .literal written) ∨ lexeme = .rightParen

/-- Tokens that have a property once others are put behind them which complete them. -/
def Completable (holds : List Token → Prop) (tokens : List Token) : Prop :=
  ∃ lexemes,
    Lexeme.Completing lexemes ∧ ∀ more, WrittenAs more lexemes → holds (tokens ++ more)

/-- Tokens that are an expression of a tier and are nested within some levels. -/
def IsExpression (tier levels : Nat) (tokens : List Token) : Prop :=
  ∃ links nesting tree,
    nesting ≤ levels ∧ Derives (.expression tier links) nesting tokens [tree]

/-- Tokens that are the arguments of a call and are nested within some levels. -/
def AreArguments (levels : Nat) (tokens : List Token) : Prop :=
  ∃ nesting trees, nesting ≤ levels ∧ Derives .arguments nesting tokens trees

namespace Completable

variable {holds holds' : List Token → Prop} {tokens : List Token}

theorem of_holds (known : holds tokens) : Completable holds tokens := by
  refine ⟨[], by simp [Lexeme.Completing], ?_⟩
  intro more written
  rw [WrittenAs.nil_iff.mp written, List.append_nil]
  exact known

theorem map (completable : Completable holds tokens)
    (larger : ∀ others, holds others → holds' others) : Completable holds' tokens := by
  rcases completable with ⟨lexemes, completing, completed⟩
  exact ⟨lexemes, completing, fun more written => larger _ (completed more written)⟩

theorem behind {used : List Token}
    (completable : Completable (fun others => holds (used ++ others)) tokens) :
    Completable holds (used ++ tokens) := by
  rcases completable with ⟨lexemes, completing, completed⟩
  refine ⟨lexemes, completing, ?_⟩
  intro more written
  rw [List.append_assoc]
  exact completed more written

/-- A parenthesis is closed behind the completion. -/
theorem close (completable : Completable holds tokens)
    (larger : ∀ others right, right.kind = .rightParen →
      holds others → holds' (others ++ [right])) :
    Completable holds' tokens := by
  rcases completable with ⟨lexemes, completing, completed⟩
  refine ⟨lexemes ++ [.rightParen], ?_, ?_⟩
  · intro lexeme member
    rcases List.mem_append.mp member with inside | last
    · exact completing lexeme inside
    · exact .inr (List.mem_singleton.mp last)
  · intro more written
    obtain ⟨inner, last, rfl, writtenInner, writtenLast⟩ := WrittenAs.append_iff.mp written
    obtain ⟨right, rfl, closed, -⟩ := WrittenAs.singleton_iff.mp writtenLast
    rw [← List.append_assoc]
    exact larger _ right closed (completed inner writtenInner)

/-- Where nothing has been read, a value completes an expression. -/
theorem expression_nil (tier levels : Nat) : Completable (IsExpression tier levels) [] := by
  let written : Literal := .boolean true
  refine ⟨[.literal written], ?_, ?_⟩
  · intro lexeme member
    exact .inl ⟨written, List.mem_singleton.mp member⟩
  · intro more writtenMore
    rcases Draft.derivable_literal written tier more writtenMore with ⟨tree, derived, -⟩
    exact ⟨_, _, tree, Nat.zero_le levels, derived⟩

end Completable

theorem IsExpression.areArguments {levels : Nat} {tokens : List Token}
    (expression : IsExpression BinaryOp.loosest levels tokens) : AreArguments levels tokens := by
  rcases expression with ⟨links, nesting, tree, within, derived⟩
  exact ⟨nesting, [tree], within, derived.lastArgument⟩

/-! ## Names in expressions -/

/-- All names are those of functions and followed by an opening parenthesis. -/
def Token.Applied : List Token → Prop
  | [] => True
  | token :: rest =>
    (token.kind.isName = true →
      token.kind = .function ∧ ∃ left ∈ rest.head?, left.kind = .leftParen) ∧ Applied rest

namespace Token

variable {tokens first second rest : List Token} {token : Token}

theorem not_name_of_kind {kind : TokenKind} (same : token.kind = kind)
    (other : kind.isName = false) : token.kind.isName = false := by
  rw [same, other]

theorem Applied.cons (other : token.kind.isName = false) (applied : Applied rest) :
    Applied (token :: rest) := by
  refine ⟨?_, applied⟩
  intro isName
  rw [other] at isName
  cases isName

theorem Applied.singleton (other : token.kind.isName = false) : Applied [token] :=
  .cons other trivial

theorem Applied.append (applied : Applied first) (applied' : Applied second) :
    Applied (first ++ second) := by
  induction first with
  | nil => exact applied'
  | cons token rest induction =>
      refine ⟨?_, induction applied.2⟩
      intro isName
      rcases applied.1 isName with ⟨function, left, member, opened⟩
      rw [Option.mem_def] at member
      exact ⟨function, left, by simp [List.head?_append, member], opened⟩

/-- A name at the end of some tokens is followed by a parenthesis in the next ones. -/
theorem Applied.last (applied : Applied (first ++ second)) :
    ∀ token ∈ first.getLast?, token.kind.isName = true →
      ∃ left ∈ second.head?, left.kind = .leftParen := by
  induction first with
  | nil => simp
  | cons token rest induction =>
      cases rest with
      | nil =>
          intro last member isName
          cases member
          exact (applied.1 isName).2
      | cons next rest =>
          rw [List.getLast?_cons_cons]
          exact induction applied.2

theorem Called.of_append (called : Called (first ++ second)) : Called second := by
  induction first with
  | nil => exact called
  | cons token rest induction => exact induction called.2

end Token

theorem Tree.not_name_of_literalValue {kind : TokenKind} {text : String} {value : Value}
    (known : literalValue kind text = .ok value) : kind.isName = false := by
  cases kind with
  | identifier => cases known
  | function => cases known
  | _ => rfl

theorem Derives.applied {phrase : Phrase} {nesting : Nat} {tokens : List Token}
    {trees : List Tree} (derived : Derives phrase nesting tokens trees) :
    Token.Applied tokens := by
  induction derived with
  | literal known => exact .cons (Tree.not_name_of_literalValue known) trivial
  | parentheses opened closed inner induction =>
      have ending := Token.Applied.singleton (Token.not_name_of_kind closed rfl)
      exact .cons (Token.not_name_of_kind opened rfl) (induction.append ending)
  | callWithout named opened closed =>
      have ending := Token.Applied.singleton (Token.not_name_of_kind closed rfl)
      exact ⟨fun _ => ⟨named, _, rfl, opened⟩, .cons (Token.not_name_of_kind opened rfl) ending⟩
  | callWith named opened closed inner induction =>
      have ending := Token.Applied.singleton (Token.not_name_of_kind closed rfl)
      exact ⟨fun _ => ⟨named, _, rfl, opened⟩,
        .cons (Token.not_name_of_kind opened rfl) (induction.append ending)⟩
  | unary written operand induction => exact .cons (Token.not_name_of_kind written rfl) induction
  | tighter inner induction => exact induction
  | link chain written listed operand chainInduction operandInduction =>
      exact chainInduction.append (.cons (Token.not_name_of_kind written rfl) operandInduction)
  | lastArgument argument induction => exact induction
  | argument first separated others firstInduction othersInduction =>
      exact firstInduction.append (.cons (Token.not_name_of_kind separated rfl) othersInduction)

/-! ## Faults of the reader -/

/--
A failure on some tokens is reported at a place up to which they can be completed to what the
reader was looking for.
-/
def Viable (finish : Nat) (holds : List Token → Prop) (tokens : List Token)
    (failure : SyntaxFailure) : Prop :=
  ∃ before after,
    tokens = before ++ after ∧ failure.position = Tree.place finish after ∧
      Completable holds before

namespace Viable

variable {finish : Nat} {holds holds' : List Token → Prop} {tokens : List Token}
variable {failure : SyntaxFailure}

theorem map (viable : Viable finish holds tokens failure)
    (larger : ∀ others, holds others → holds' others) : Viable finish holds' tokens failure := by
  obtain ⟨before, after, whole, position, completable⟩ := viable
  exact ⟨before, after, whole, position, completable.map larger⟩

/-- A failure behind some tokens is one on all of them. -/
theorem behind (used : List Token)
    (viable : Viable finish (fun others => holds (used ++ others)) tokens failure) :
    Viable finish holds (used ++ tokens) failure := by
  obtain ⟨before, after, rfl, position, completable⟩ := viable
  exact ⟨used ++ before, after, by rw [List.append_assoc], position, completable.behind⟩

theorem close (viable : Viable finish holds tokens failure)
    (larger : ∀ others right, right.kind = .rightParen →
      holds others → holds' (others ++ [right])) :
    Viable finish holds' tokens failure := by
  obtain ⟨before, after, whole, position, completable⟩ := viable
  exact ⟨before, after, whole, position, completable.close larger⟩

/-- Where an expression was to begin, a value can stand. -/
theorem at_start {tier levels : Nat} (position : failure.position = Tree.place finish tokens) :
    Viable finish (IsExpression tier levels) tokens failure :=
  ⟨[], tokens, rfl, position, .expression_nil tier levels⟩

end Viable

/-- An expression of the lowest tier is no chain. -/
theorem Derives.links_eq_zero {links nesting : Nat} {tokens : List Token} {trees : List Tree}
    (derived : Derives (.expression 0 links) nesting tokens trees) : links = 0 := by
  cases derived <;> rfl

namespace Tree

mutual

theorem ofTier_viable {finish room tier : Nat} {tokens : List Token} {failure : SyntaxFailure}
    (failed : ofTier finish room tier tokens = .error failure) (called : Token.Called tokens) :
    Viable finish (IsExpression tier room) tokens failure := by
  unfold ofTier at failed
  split at failed
  · exact ofOperand_viable failed called
  · next tier =>
    split at failed
    · next first rest firstRead =>
      obtain ⟨used, links, nesting, rfl, within, derived⟩ := ofTier_derives firstRead
      apply Viable.behind used
      exact ofChain_viable failed called.of_append (Nat.add_zero room) within derived.tighter
    · next firstFailed =>
      cases failed
      apply (ofTier_viable firstFailed called).map
      rintro others ⟨links, nesting, tree, within, derived⟩
      exact ⟨0, nesting, tree, within, derived.tighter⟩
termination_by (room, tier + 3, 0)

/-- What is completed behind the chain so far is a further part of the chain. -/
theorem ofChain_viable {finish room tier total links nesting : Nat} {left : Tree}
    {used tokens : List Token} {failure : SyntaxFailure}
    (failed : ofChain finish room tier left tokens = .error failure)
    (called : Token.Called tokens)
    (spent : room + links = total)
    (within : nesting ≤ total)
    (chain : Derives (.expression (tier + 1) links) nesting used [left]) :
    Viable finish (fun others => IsExpression (tier + 1) total (used ++ others)) tokens
      failure := by
  unfold ofChain at failed
  split at failed
  · cases failed
  · next token rest =>
    split at failed
    · cases failed
    · next op isLink =>
      rcases Token.binaryOf?_eq_some_iff.mp isLink with ⟨written, listed⟩
      split at failed
      · cases failed
        -- No level is left for the operator, so the chain ends before it.
        refine ⟨[], token :: rest, rfl, rfl, .of_holds ?_⟩
        rw [List.append_nil]
        exact ⟨links, nesting, left, within, chain⟩
      · next room =>
        split at failed
        · next right after rightRead =>
          obtain ⟨operand, _, depth, rfl, shallow, derived⟩ := ofTier_derives rightRead
          have spent' : room + (links + 1) = total := by omega
          have deeper : max nesting (links + 1 + depth) ≤ total := by omega
          have viable := ofChain_viable failed called.2.of_append spent' deeper
            (chain.link written listed derived)
          simp only [List.append_assoc] at viable
          exact viable.behind (token :: operand)
        · next rightFailed =>
          cases failed
          apply Viable.behind [token]
          apply (ofTier_viable rightFailed called.2).map
          rintro others ⟨_, depth, right, shallow, derived⟩
          refine ⟨links + 1, _, _, ?_, chain.link written listed derived⟩
          omega
termination_by (room, 2, 0)

theorem ofOperand_viable {finish room : Nat} {tokens : List Token} {failure : SyntaxFailure}
    (failed : ofOperand finish room tokens = .error failure) (called : Token.Called tokens) :
    Viable finish (IsExpression 0 room) tokens failure := by
  unfold ofOperand at failed
  split at failed
  · cases failed
    exact .at_start rfl
  · next token rest =>
    split at failed
    · exact ofPrimary_viable failed called
    · next op isUnary =>
      split at failed
      · cases failed
        exact .at_start rfl
      · next room =>
        split at failed
        · cases failed
        · next operandFailed =>
          cases failed
          apply Viable.behind [token]
          apply (ofOperand_viable operandFailed called.2).map
          rintro others ⟨links, nesting, tree, within, derived⟩
          have written := Token.unary?_eq_some_iff.mp isUnary
          rw [derived.links_eq_zero] at derived
          exact ⟨0, nesting + 1, _, Nat.succ_le_succ within, derived.unary written⟩
termination_by (room, 1, 0)

theorem ofPrimary_viable {finish room : Nat} {token : Token} {following : List Token}
    {failure : SyntaxFailure}
    (failed : ofPrimary finish room token following = .error failure)
    (called : Token.Called (token :: following)) :
    Viable finish (IsExpression 0 room) (token :: following) failure := by
  unfold ofPrimary at failed
  split at failed
  · next named =>
    split at failed
    · next written place rest =>
      split at failed
      · cases failed
        exact .at_start rfl
      · next room =>
        split at failed
        · cases failed
        · split at failed
          · cases failed
          · next argumentsFailed =>
            cases failed
            let left : Token := ⟨.leftParen, written, place⟩
            rcases ofArguments_viable argumentsFailed called.2.2 with viable | position
            · apply Viable.behind [token, left]
              apply viable.close
              rintro others right closed ⟨nesting, trees, within, derived⟩
              exact ⟨0, nesting + 1, _, Nat.succ_le_succ within,
                derived.callWith named rfl closed⟩
            · exact .at_start position
    · next notOpened =>
      -- A name is that of a function only where a parenthesis follows.
      rcases (called.1 (by rw [named]; rfl)).mp named with ⟨left, member, opened⟩
      rcases List.head?_eq_some_iff.mp member with ⟨rest, rfl⟩
      rcases left with ⟨kind, written, place⟩
      cases opened
      exact absurd rfl (notOpened written place rest)
  · next opened =>
    split at failed
    · cases failed
      exact .at_start rfl
    · next room =>
      split at failed
      · cases failed
      · cases failed
        exact .at_start rfl
      · next innerFailed =>
        cases failed
        apply Viable.behind [token]
        apply (ofTier_viable innerFailed called.2).close
        rintro others right closed ⟨links, nesting, tree, within, derived⟩
        exact ⟨0, nesting + 1, _, Nat.succ_le_succ within, derived.parentheses opened closed⟩
  · split at failed
    · cases failed
    · cases failed
      exact .at_start rfl
termination_by (room, 0, 0)

/-- Arguments fail at a fault within, or else where the name of the function stands. -/
theorem ofArguments_viable {finish room : Nat} {name : Token} {tokens : List Token}
    {failure : SyntaxFailure}
    (failed : ofArguments finish room name tokens = .error failure)
    (called : Token.Called tokens) :
    Viable finish (AreArguments room) tokens failure ∨
      failure.position = name.span.start := by
  unfold ofArguments at failed
  split at failed
  · cases failed
    exact .inl (.map (.at_start rfl) fun _ => IsExpression.areArguments)
  · cases failed
    exact .inl (.map (.at_start rfl) fun _ => IsExpression.areArguments)
  · split at failed
    · next argumentFailed =>
      cases failed
      exact .inl ((ofTier_viable argumentFailed called).map fun _ => IsExpression.areArguments)
    · cases failed
    · next argument written place rest argumentRead =>
      obtain ⟨used, _, nesting, rfl, within, derived⟩ := ofTier_derives argumentRead
      let comma : Token := ⟨.comma, written, place⟩
      split at failed
      · split at failed
        · cases failed
        · next laterFailed =>
          cases failed
          rcases ofArguments_viable laterFailed called.of_append.2 with viable | position
          · left
            rw [← List.singleton_append, ← List.append_assoc]
            apply Viable.behind (used ++ [comma])
            apply viable.map
            rintro others ⟨nesting', trees, within', derived'⟩
            rw [List.append_assoc, List.singleton_append]
            exact ⟨_, _, Nat.max_le.mpr ⟨within, within'⟩, derived.argument rfl derived'⟩
          · exact .inr position
      · cases failed
        exact .inr rfl
    · cases failed
      exact .inr rfl
termination_by (room, BinaryOp.loosest + 4, tokens.length)

end

/-- Where all tokens are no expression, the place of the fault is viable, or the source is blank. -/
theorem ofTokens_viable {finish : Nat} {tokens : List Token} {failure : SyntaxFailure}
    (failed : ofTokens finish tokens = .error failure) (called : Token.Called tokens) :
    Viable finish (IsExpression BinaryOp.loosest maxNesting) tokens failure ∨
      failure.position = 0 := by
  rw [ofTokens] at failed
  split at failed
  · cases failed
    exact .inr rfl
  · split at failed
    · next wholeFailed =>
      cases failed
      exact .inl (ofTier_viable wholeFailed called)
    · cases failed
    · next tree token rest wholeRead =>
      obtain ⟨used, links, nesting, rfl, within, derived⟩ := ofTier_derives wholeRead
      have position : failure.position = token.span.start := by
        split at failed <;> cases failed <;> rfl
      have expression : IsExpression BinaryOp.loosest maxNesting used :=
        ⟨links, nesting, tree, within, derived⟩
      exact .inl ⟨used, token :: rest, rfl, position, .of_holds expression⟩

end Tree

/-! ## Texts -/

namespace Token

/-- What completes is no opening parenthesis, and it names no function. -/
theorem head_of_completing {lexemes : List Lexeme} {more : List Token}
    (completing : Lexeme.Completing lexemes) (written : WrittenAs more lexemes) :
    ∀ next ∈ more.head?, next.kind ≠ .leftParen := by
  intro next member
  rcases List.head?_eq_some_iff.mp member with ⟨rest, rfl⟩
  cases lexemes with
  | nil => cases WrittenAs.nil_iff.mp written
  | cons lexeme lexemes =>
      obtain ⟨first, others, same, kind, -⟩ := WrittenAs.cons_iff.mp written
      cases same
      rcases completing lexeme List.mem_cons_self with ⟨literal, rfl⟩ | rfl
      · rw [kind]
        cases literal <;> simp [Lexeme.kind, Literal.kind]
      · simp [kind, Lexeme.kind]

/-- A completion leaves the last of the completed tokens what it is, whatever follows it. -/
theorem Applied.last_kept {tokens more : List Token} {lexemes : List Lexeme}
    (applied : Applied (tokens ++ more)) (completing : Lexeme.Completing lexemes)
    (written : WrittenAs more lexemes) (following : List Char) :
    ∀ token ∈ tokens.getLast?, token.kind.before following = token.kind := by
  intro token member
  apply TokenKind.before_of_not_name
  rw [Bool.eq_false_iff]
  intro isName
  rcases applied.last token member isName with ⟨left, member', opened⟩
  exact head_of_completing completing written left member' opened

theorem called_of_completing {lexemes : List Lexeme}
    (completing : Lexeme.Completing lexemes) : Lexeme.Called lexemes := by
  induction lexemes with
  | nil => trivial
  | cons lexeme rest induction =>
      rw [Lexeme.Completing, List.forall_mem_cons] at completing
      rcases completing with ⟨⟨literal, rfl⟩ | rfl, others⟩
      · exact induction others
      · exact induction others

end Token

namespace Expression

/-- A text with tokens that can be completed is completed to a text that is parsed. -/
theorem exists_continuation {before : String} {following : List Char} {tokens : List Token}
    (cut : Token.Cut following 0 before.toList tokens)
    (completable : Completable (IsExpression BinaryOp.loosest maxNesting) tokens) :
    ∃ continuation expression, parse (before ++ continuation) = .ok expression := by
  rcases completable with ⟨lexemes, completing, completed⟩
  -- A blank keeps the completion apart from what is completed.
  let continuation := ' ' :: Lexeme.tight lexemes
  obtain ⟨more, scanned, written⟩ :=
    Token.scanFrom_of_laid (Lexeme.laid_tight lexemes) (Token.called_of_completing completing)
      (0 + Text.byteLength before.toList + ' '.utf8Size)
  obtain ⟨links, nesting, tree, within, derived⟩ := completed more written
  have kept := derived.applied.last_kept completing written continuation
  have blank : ∀ next ∈ continuation.head?, Text.isBlank next = true := by
    intro next member
    cases member
    rfl
  rcases cut.before blank with ⟨tokens', cut', same⟩
  rw [same kept] at cut'
  have cutMore : Token.Cut [] (0 + Text.byteLength before.toList) continuation more :=
    .blank rfl (Token.scanFrom_eq_ok_iff.mp scanned)
  rw [← List.append_nil continuation] at cut'
  refine ⟨String.ofList continuation, ⟨before ++ String.ofList continuation, tree⟩, ?_⟩
  have tokenized :
      Token.tokenize (before ++ String.ofList continuation) = .ok (tokens ++ more) := by
    rw [Token.tokenize_eq_ok_iff, String.toList_append, String.toList_ofList]
    exact cut'.append cutMore
  exact (parse_eq_ok_iff_derives tokenized).mpr ⟨links, nesting, within, derived⟩

/--
The text before the place of a syntax error is the beginning of an expression, if the source has
tokens at all: some text completes it, and the result is parsed.
-/
theorem error_position_is_viable {source : String} {tokens : List Token} {error : SyntaxError}
    (tokenized : Token.tokenize source = .ok tokens)
    (rejected : parse source = .error error) :
    ∃ before after continuation expression,
      source = before ++ after ∧ before.utf8ByteSize = error.position ∧
        parse (before ++ continuation) = .ok expression := by
  rw [parse, read_eq_of_tokenize tokenized] at rejected
  rw [Token.tokenize_eq_ok_iff] at tokenized
  split at rejected
  · cases rejected
  · next failure failed =>
    cases rejected
    rcases Tree.ofTokens_viable failed tokenized.called with
      ⟨earlier, later, rfl, position, completable⟩ | position
    · obtain ⟨before, after, whole, cut, -, place⟩ := tokenized.split_tokens
      rw [Nat.zero_add, Nat.zero_add, Text.byteLength_toList] at place
      rw [List.append_nil, ← String.toList_ofList (l := before)] at cut
      rcases exists_continuation cut completable with ⟨continuation, expression, parsed⟩
      refine ⟨String.ofList before, String.ofList after, continuation, expression, ?_, ?_, parsed⟩
      · rw [← String.ofList_append, ← whole, String.ofList_toList]
      · rw [Text.utf8ByteSize_ofList, ← place, ← position]
        rfl
    · -- A source of blanks is reported at its start.
      have nothing : Token.Cut source.toList 0 "".toList [] := .nil
      obtain ⟨continuation, expression, parsed⟩ :=
        exists_continuation nothing (.expression_nil BinaryOp.loosest maxNesting)
      exact ⟨"", source, continuation, expression, by simp, position.symm, parsed⟩

/-- An argument is missing, behind a letter that takes two bytes. -/
theorem error_position_is_viable_argument :
    ∃ error before after continuation expression,
      parse "f('ü', )" = .error error ∧ "f('ü', )" = before ++ after ∧
        before.utf8ByteSize = error.position ∧
          parse (before ++ continuation) = .ok expression := by
  let tokens : List Token :=
    [⟨.function, "f", ⟨0, 1⟩⟩, ⟨.leftParen, "(", ⟨1, 2⟩⟩, ⟨.string, "ü", ⟨2, 6⟩⟩,
      ⟨.comma, ",", ⟨6, 7⟩⟩, ⟨.rightParen, ")", ⟨8, 9⟩⟩]
  have tokenized : Token.tokenize "f('ü', )" = .ok tokens := eq_ok_of_toOption (by decide +kernel)
  have failed (finish : Nat) : Tree.ofTokens finish tokens = .error ⟨8, .emptyArgument⟩ := by
    simp [tokens, Tree.ofTokens, Tree.ofTier, Tree.ofChain, Tree.ofOperand, Tree.ofPrimary,
      Tree.ofArguments, Tree.literalValue, Token.unary?, Token.binaryOf?, BinaryOp.loosest,
      maxNesting]
  have rejected : ∃ error, parse "f('ü', )" = .error error := by
    rw [parse, read_eq_of_tokenize tokenized, failed]
    exact ⟨_, rfl⟩
  rcases rejected with ⟨error, rejected⟩
  obtain ⟨before, after, continuation, expression, whole, position, parsed⟩ :=
    error_position_is_viable tokenized rejected
  exact ⟨error, before, after, continuation, expression, rejected, whole, position, parsed⟩

end Expression

end Vigil
