import Vigil.Proofs.Expr.Cursor
import Vigil.Proofs.Expr.Excerpt
import Vigil.Proofs.Expr.NumericText

/-!
# What the reader objects to

The reader fails at tokens that it cannot take, and `Tree.Objection` lists what can be wrong with
them.  Nothing else makes it fail, but for a text without any tokens: `Tree.ofTokens_objects`.

Two of the objections are never made, for the scanner leaves no such tokens: it looks for the
parenthesis behind a name before it takes the name for that of a function, and it takes for a number
what is read as one.  `Expression.scanned_tokens_suit_reader` says this of every source, and that a
reader with a cursor finds a token at every position where it looks back for one.
-/

namespace Vigil

namespace Tree

/-! ## Objections -/

/-- What is wrong with the tokens that are left, at the front of them. -/
inductive Objection (finish : Nat) : List Token → SyntaxFailure → Prop where
  | endOfInput : Objection finish [] ⟨finish, .endOfInput⟩
  | nestedTooDeeply {token : Token} {rest : List Token} :
      Objection finish (token :: rest) ⟨token.span.start, .nestedTooDeeply⟩
  | noValue {token : Token} {rest : List Token} {fault : SyntaxFault}
      (unknown : literalValue token.kind token.value = .error fault) :
      Objection finish (token :: rest) ⟨token.span.start, fault⟩
  | missingArgumentList {name : Token} {rest : List Token} (named : name.kind = .function)
      (unopened : ∀ left ∈ rest.head?, left.kind ≠ .leftParen) :
      Objection finish (name :: rest) ⟨place finish rest, .missingArgumentList⟩
  | emptyArgument {token : Token} {rest : List Token}
      (ends : token.kind = .comma ∨ token.kind = .rightParen) :
      Objection finish (token :: rest) ⟨token.span.start, .emptyArgument⟩
  | unclosedCall {name : Token} {rest : List Token} (named : name.kind = .function) :
      Objection finish (name :: rest) ⟨name.span.start, .unclosedCall name.value⟩
  | unclosedParenthesis {left : Token} {rest : List Token} (opened : left.kind = .leftParen) :
      Objection finish (left :: rest) ⟨left.span.start, .unclosedParenthesis⟩
  | unopenedParenthesis {right : Token} {rest : List Token} (closed : right.kind = .rightParen) :
      Objection finish (right :: rest) ⟨right.span.start, .unopenedParenthesis⟩
  | trailingToken {token : Token} {rest : List Token} :
      Objection finish (token :: rest) ⟨token.span.start, .trailingToken token.value⟩

/-- There is an objection to what is left of some tokens at one place or another. -/
def Objectionable (finish : Nat) (tokens : List Token) (failure : SyntaxFailure) : Prop :=
  ∃ rest, rest <:+ tokens ∧ Objection finish rest failure

variable {finish : Nat} {tokens rest : List Token} {failure : SyntaxFailure}

theorem Objection.here (objection : Objection finish tokens failure) :
    Objectionable finish tokens failure :=
  ⟨tokens, List.suffix_rfl, objection⟩

theorem Objectionable.of_suffix (objectionable : Objectionable finish rest failure)
    (left : rest <:+ tokens) : Objectionable finish tokens failure := by
  rcases objectionable with ⟨others, left', objection⟩
  exact ⟨others, left'.trans left, objection⟩

theorem Objectionable.cons {token : Token} (objectionable : Objectionable finish rest failure) :
    Objectionable finish (token :: rest) failure :=
  objectionable.of_suffix (List.suffix_cons token rest)

/-! ## The reader makes no others -/

mutual

theorem ofTier_objects {finish room tier : Nat} {tokens : List Token} {failure : SyntaxFailure}
    (failed : ofTier finish room tier tokens = .error failure) :
    Objectionable finish tokens failure := by
  unfold ofTier at failed
  split at failed
  · exact ofOperand_objects failed
  · next tier =>
    split at failed
    · next first rest firstRead =>
      exact (ofChain_objects failed).of_suffix (suffix_of_ofTier firstRead).1
    · next firstFailed =>
      cases failed
      exact ofTier_objects firstFailed
termination_by (room, tier + 3, 0)

theorem ofChain_objects {finish room tier : Nat} {left : Tree} {tokens : List Token}
    {failure : SyntaxFailure}
    (failed : ofChain finish room tier left tokens = .error failure) :
    Objectionable finish tokens failure := by
  unfold ofChain at failed
  split at failed
  · cases failed
  · next token rest =>
    split at failed
    · cases failed
    · split at failed
      · cases failed
        exact Objection.nestedTooDeeply.here
      · next room =>
        split at failed
        · next rightRead =>
          exact ((ofChain_objects failed).of_suffix (suffix_of_ofTier rightRead).1).cons
        · next rightFailed =>
          cases failed
          exact (ofTier_objects rightFailed).cons
termination_by (room, 2, 0)

theorem ofOperand_objects {finish room : Nat} {tokens : List Token} {failure : SyntaxFailure}
    (failed : ofOperand finish room tokens = .error failure) :
    Objectionable finish tokens failure := by
  unfold ofOperand at failed
  split at failed
  · cases failed
    exact Objection.endOfInput.here
  · next token rest =>
    split at failed
    · exact ofPrimary_objects failed
    · split at failed
      · cases failed
        exact Objection.nestedTooDeeply.here
      · next room =>
        split at failed
        · cases failed
        · next operandFailed =>
          cases failed
          exact (ofOperand_objects operandFailed).cons
termination_by (room, 1, 0)

theorem ofPrimary_objects {finish room : Nat} {token : Token} {following : List Token}
    {failure : SyntaxFailure}
    (failed : ofPrimary finish room token following = .error failure) :
    Objectionable finish (token :: following) failure := by
  unfold ofPrimary at failed
  split at failed
  · next named =>
    split at failed
    · split at failed
      · cases failed
        exact Objection.nestedTooDeeply.here
      · next room =>
        split at failed
        · cases failed
        · split at failed
          · cases failed
          · next argumentsFailed =>
            cases failed
            rcases ofArguments_objects argumentsFailed with objectionable | rfl
            · exact objectionable.cons.cons
            · exact (Objection.unclosedCall named).here
    · next unopened =>
      cases failed
      exact (Objection.missingArgumentList named (Cursor.kind_ne_of_not_cons unopened)).here
  · next opened =>
    split at failed
    · cases failed
      exact Objection.nestedTooDeeply.here
    · next room =>
      split at failed
      · cases failed
      · cases failed
        exact (Objection.unclosedParenthesis opened).here
      · next innerFailed =>
        cases failed
        exact (ofTier_objects innerFailed).cons
  · split at failed
    · cases failed
    · next unknown =>
      cases failed
      exact (Objection.noValue unknown).here
termination_by (room, 0, 0)

/-- The objection to an argument list that is not closed is one to the name before it. -/
theorem ofArguments_objects {finish room : Nat} {name : Token} {tokens : List Token}
    {failure : SyntaxFailure}
    (failed : ofArguments finish room name tokens = .error failure) :
    Objectionable finish tokens failure ∨
      failure = ⟨name.span.start, .unclosedCall name.value⟩ := by
  unfold ofArguments at failed
  split at failed
  · cases failed
    exact .inl (Objection.emptyArgument (.inl rfl)).here
  · cases failed
    exact .inl (Objection.emptyArgument (.inr rfl)).here
  · split at failed
    · next argumentFailed =>
      cases failed
      exact .inl (ofTier_objects argumentFailed)
    · cases failed
    · next argument value span rest argumentRead =>
      have left := Cursor.suffix_of_cons (suffix_of_ofTier argumentRead).1
      split at failed
      · split at failed
        · cases failed
        · next laterFailed =>
          cases failed
          exact (ofArguments_objects laterFailed).imp_left fun later => later.of_suffix left
      · cases failed
        exact .inr rfl
    · cases failed
      exact .inr rfl
termination_by (room, BinaryOp.loosest + 4, tokens.length)

end

/-- A text without tokens is empty; in all others something is wrong with the tokens. -/
theorem ofTokens_objects (failed : ofTokens finish tokens = .error failure) :
    (tokens = [] ∧ failure = ⟨0, .emptyExpression⟩) ∨ Objectionable finish tokens failure := by
  rw [ofTokens] at failed
  split at failed
  · next empty =>
    cases failed
    exact .inl ⟨List.isEmpty_iff.mp empty, rfl⟩
  · right
    split at failed
    · next wholeFailed =>
      cases failed
      exact ofTier_objects wholeFailed
    · cases failed
    · next wholeRead =>
      have left := (suffix_of_ofTier wholeRead).1
      split at failed
      · next closed =>
        cases failed
        exact (Objection.unopenedParenthesis closed).here.of_suffix left
      · cases failed
        exact Objection.trailingToken.here.of_suffix left

end Tree

/-! ## What the scanner leaves -/

namespace Token

/-- All number tokens have numerals for their text. -/
def Counted (tokens : List Token) : Prop :=
  ∀ token ∈ tokens, token.kind = .number → ∃ numeral : Numeral, numeral.text = token.value.toList

theorem Cut.counted {following characters : List Char} {offset : Nat} {tokens : List Token}
    (cut : Cut following offset characters tokens) : Counted tokens := by
  induction cut with
  | nil => simp [Counted]
  | blank isBlank cut induction => exact induction
  | @token offset kind value text rest tokens lexes cut induction =>
      refine List.forall_mem_cons.mpr ⟨?_, induction⟩
      rintro rfl
      rcases lexes.exists_numeral with ⟨numeral, -, content⟩
      exact ⟨numeral, by rw [content, String.toList_ofList]⟩

theorem Counted.literalValue {tokens : List Token} (counted : Counted tokens) {token : Token}
    (member : token ∈ tokens) (kind : token.kind = .number) :
    ∃ numeral : Numeral,
      token.value.toList = numeral.text ∧
        Tree.literalValue token.kind token.value = .ok (.number numeral.number) := by
  rcases counted token member kind with ⟨numeral, content⟩
  refine ⟨numeral, content.symm, ?_⟩
  rw [kind]
  exact @Literal.literalValue (.number numeral) token.value content.symm

/-- What follows a name tells whether it is that of a function. -/
theorem Called.next {earlier later : List Token} {token : Token}
    (called : Called (earlier ++ token :: later)) :
    (token.kind = .function → ∃ left ∈ later.head?, left.kind = .leftParen) ∧
      (token.kind = .identifier → ∀ next ∈ later.head?, next.kind ≠ .leftParen) := by
  have first := called.of_append.1
  constructor
  · intro named
    exact (first (by rw [named]; rfl)).mp named
  · intro named next member opened
    have function := (first (by rw [named]; rfl)).mpr ⟨next, member, opened⟩
    rw [named] at function
    cases function

end Token

/-! ## Faults that are never reported -/

namespace SyntaxFault

/-- Whether a text can have a fault.  Two faults are those of tokens that are in no text. -/
def Occurs : SyntaxFault → Prop
  | missingArgumentList | invalidNumber _ => False
  | _ => True

theorem begins (opening rest : String) : opening.toList <+: (opening ++ rest).toList := by
  rw [String.toList_append]
  exact List.prefix_append _ _

/-- A message begins like no text that differs from its opening words. -/
theorem not_begins_of_opening {texts : List String} {opening message : String}
    (apart : ∀ text ∈ texts, ¬text.toList <+: opening.toList ∧ ¬opening.toList <+: text.toList)
    (starts : opening.toList <+: message.toList) :
    ∀ text ∈ texts, ¬text.toList <+: message.toList := by
  intro text member starts'
  rcases List.prefix_or_prefix_of_prefix starts' starts with shorter | longer
  · exact (apart text member).1 shorter
  · exact (apart text member).2 longer

/-- What is reported of a fault that occurs is not what would be reported of the two others. -/
theorem Occurs.not_begins {fault : SyntaxFault} (occurs : fault.Occurs) :
    ∀ text ∈ ["expected '(' after function name", "invalid number"],
      ¬text.toList <+: fault.message.toList := by
  cases fault with
  | missingArgumentList | invalidNumber => cases occurs
  | unexpectedCharacter character =>
      exact not_begins_of_opening (by decide) (begins "unexpected character " _)
  | valueExpected found =>
      exact not_begins_of_opening (by decide) (begins "expected a value, found " _)
  | bareIdentifier name =>
      have starts : "bare identifier ".toList <+: (bareIdentifier name).message.toList :=
        (begins _ _).trans ((begins _ _).trans ((begins _ _).trans (begins _ _)))
      exact not_begins_of_opening (by decide) starts
  | unclosedCall name =>
      exact not_begins_of_opening (by decide) (begins "unbalanced '(' in call to " _)
  | trailingToken value =>
      exact not_begins_of_opening (by decide) (begins "unexpected trailing token " _)
  | _ => decide

end SyntaxFault

/-- The scanner fails at open string literals and at characters that begin no token. -/
theorem Token.occurs_of_scanFrom {offset : Nat} {characters : List Char} {failure : SyntaxFailure}
    (failed : scanFrom offset characters = .error failure) : failure.fault.Occurs := by
  fun_induction scanFrom offset characters with
  | case1 | case3 => cases failed
  | case2 _ _ _ _ step => exact step failed
  | case4 =>
      rename_i read step
      cases failed
      exact step read
  | case5 | case6 =>
      cases failed
      trivial

theorem Tree.Objection.occurs {finish : Nat} {tokens : List Token} {failure : SyntaxFailure}
    (objection : Objection finish tokens failure) (called : Token.Called tokens)
    (counted : Token.Counted tokens) : failure.fault.Occurs := by
  cases objection with
  | @noValue token rest fault unknown =>
      cases kind : token.kind with
      | number =>
          rcases counted.literalValue List.mem_cons_self kind with ⟨numeral, -, known⟩
          rw [known] at unknown
          cases unknown
      | _ =>
          rw [kind] at unknown
          cases unknown <;> trivial
  | @missingArgumentList name rest named unopened =>
      rcases (@Token.Called.next [] rest name called).1 named with ⟨left, member, opened⟩
      exact absurd opened (unopened left member)
  | _ => trivial

namespace Expression

/-- The fault of a source that is rejected is one that occurs. -/
theorem occurs_of_parse {source : String} {error : SyntaxError}
    (rejected : parse source = .error error) : error.failure.fault.Occurs := by
  rcases parse_eq_error rejected with rejected | ⟨tokens, failure, tokenized, rfl, failed⟩
  · rcases Token.exists_failure_of_tokenize rejected with ⟨failure, scanned, rfl⟩
    exact Token.occurs_of_scanFrom scanned
  · have cut := Token.tokenize_eq_ok_iff.mp tokenized
    rcases Tree.ofTokens_objects failed with ⟨-, rfl⟩ | ⟨rest, ⟨used, rfl⟩, objection⟩
    · trivial
    · have counted : Token.Counted rest := fun token member =>
        cut.counted token (List.mem_append_right used member)
      exact objection.occurs cut.called.of_append counted

/--
The tokens of a source are what the reader takes for granted.  The names of functions, and no
others, have a parenthesis right behind them, and every number token is a row of digits, perhaps
with a point and digits, and has a value.  So no source is rejected for a function without an
argument list or for a number that cannot be read.  Nor does a reader with a cursor ever look back
for a token where there is none: its answers are those of the reader.
-/
theorem scanned_tokens_suit_reader (source : String) :
    (∀ earlier token later,
      Token.tokenize source = .ok (earlier ++ token :: later) →
        (token.kind = .function → ∃ left ∈ later.head?, left.kind = .leftParen) ∧
        (token.kind = .identifier → ∀ next ∈ later.head?, next.kind ≠ .leftParen) ∧
        (token.kind = .number →
          ∃ numeral : Numeral,
            token.value.toList = numeral.text ∧
              Tree.literalValue token.kind token.value = .ok (.number numeral.number))) ∧
    (∀ error,
      parse source = .error error →
        error.failure.fault ≠ .missingArgumentList ∧
        (∀ text, error.failure.fault ≠ .invalidNumber text) ∧
        ∀ text ∈ ["expected '(' after function name", "invalid number"],
          ¬text.toList <+: error.detail.toList) ∧
    (∀ position, Cursor.read source ≠ .error (.outside position)) ∧
    Cursor.read source = (read source).mapError .failure := by
  refine ⟨?_, ?_, ?_, Cursor.read_eq source⟩
  · intro earlier token later tokenized
    have cut := Token.tokenize_eq_ok_iff.mp tokenized
    have member : token ∈ earlier ++ token :: later :=
      List.mem_append_right earlier List.mem_cons_self
    exact ⟨cut.called.next.1, cut.called.next.2, cut.counted.literalValue member⟩
  · intro error rejected
    have occurs := occurs_of_parse rejected
    refine ⟨?_, ?_, occurs.not_begins⟩
    · intro missing
      rw [missing] at occurs
      exact occurs
    · intro text invalid
      rw [invalid] at occurs
      exact occurs
  · intro position
    rw [Cursor.read_eq]
    cases read source <;> simp [Except.mapError]

/-- A call with a blank before its parenthesis, of a number with a point and a name by itself. -/
theorem scanned_tokens_suit_reader_name :
    ∃ name left number comma bare right error,
      Token.tokenize "max (2.5, limit)" = .ok [name, left, number, comma, bare, right] ∧
      (name.kind = .function ∧ left.kind = .leftParen) ∧
      (number.kind = .number ∧
        ∃ numeral : Numeral,
          number.value.toList = numeral.text ∧
            Tree.literalValue number.kind number.value = .ok (.number numeral.number)) ∧
      (bare.kind = .identifier ∧ right.kind ≠ .leftParen) ∧
      parse "max (2.5, limit)" = .error error ∧
      (∀ text ∈ ["expected '(' after function name", "invalid number"],
        ¬text.toList <+: error.detail.toList) ∧
      Cursor.read "max (2.5, limit)" = .error (.failure ⟨10, .bareIdentifier "limit"⟩) := by
  let name : Token := ⟨.function, "max", ⟨0, 3⟩⟩
  let left : Token := ⟨.leftParen, "(", ⟨4, 5⟩⟩
  let number : Token := ⟨.number, "2.5", ⟨5, 8⟩⟩
  let comma : Token := ⟨.comma, ",", ⟨8, 9⟩⟩
  let bare : Token := ⟨.identifier, "limit", ⟨10, 15⟩⟩
  let right : Token := ⟨.rightParen, ")", ⟨15, 16⟩⟩
  have tokenized :
      Token.tokenize "max (2.5, limit)" = .ok [name, left, number, comma, bare, right] :=
    eq_ok_of_toOption (by decide +kernel)
  have failed (finish : Nat) :
      Tree.ofTokens finish [name, left, number, comma, bare, right] =
        .error ⟨10, .bareIdentifier "limit"⟩ := by
    have decimal : Decimal.read? ['2', '.', '5'] = some ⟨25, -1⟩ := by decide
    simp [name, left, number, comma, bare, right, Tree.ofTokens, Tree.ofTier, Tree.ofChain,
      Tree.ofOperand, Tree.ofPrimary, Tree.ofArguments, Tree.literalValue, Token.unary?,
      Token.binaryOf?, BinaryOp.loosest, maxNesting, decimal]
  have unread : read "max (2.5, limit)" = .error ⟨10, .bareIdentifier "limit"⟩ := by
    rw [read_eq_of_tokenize tokenized, failed]
  have parsed : ∃ error, parse "max (2.5, limit)" = .error error := by
    rw [parse, unread]
    exact ⟨_, rfl⟩
  rcases parsed with ⟨error, parsed⟩
  obtain ⟨scanned, rejected, -, cursor⟩ := scanned_tokens_suit_reader "max (2.5, limit)"
  rw [unread] at cursor
  rcases (scanned [] name _ tokenized).1 rfl with ⟨opened, member, isOpened⟩
  cases member
  exact ⟨name, left, number, comma, bare, right, error, tokenized, ⟨rfl, isOpened⟩,
    ⟨rfl, (scanned [name, left] number _ tokenized).2.2 rfl⟩,
    ⟨rfl, (scanned [name, left, number, comma] bare _ tokenized).2.1 rfl right rfl⟩,
    parsed, (rejected error parsed).2.2, cursor⟩

end Expression

end Vigil
