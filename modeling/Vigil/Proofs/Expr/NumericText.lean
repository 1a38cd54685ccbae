import Vigil.Expr.Evaluate
import Vigil.Proofs.Expr.Cut
import Vigil.Proofs.Value.Numeric

/-!
# Numeric texts as expressions

There are two readers of numbers.  One finds the numeric view of a text that a value holds, the
other is the parser.  `Expression.number_readers_agree` says that they do not differ: a text with a
numeric view is an expression for this number, where a minus sign is the operator, and a source that
is no more than one number literal has the value of the literal as its numeric view, unless this
value is infinite.
-/

namespace Vigil

/-! ## Signs -/

/-- The number of a decimal with the other sign. -/
theorem Decimal.neg_toNumber (negative : Bool) (decimal : Decimal) :
    -decimal.toNumber negative = decimal.toNumber !negative := by
  unfold toNumber Number.rounded
  cases Magnitude.nearest? decimal.quotient.1 decimal.quotient.2 <;> rfl

/-! ## Expressions for numbers -/

theorem Tree.eq_literal_of_withoutSpans {tree : Tree} {value : Value}
    (same : tree.withoutSpans = .literal value) : tree = .literal value := by
  cases tree with
  | literal => exact same
  | call | unary | binary => cases same

theorem Tree.eq_unary_of_withoutSpans {tree : Tree} {op : UnaryOp} {value : Value}
    (same : tree.withoutSpans = .unary op (.literal value)) :
    tree = .unary op (.literal value) := by
  cases tree with
  | unary op' operand =>
      rw [withoutSpans, Tree.unary.injEq] at same
      rw [same.1, eq_literal_of_withoutSpans same.2]
  | call | literal | binary => cases same

theorem Laid.blanks {lexemes : List Lexeme} {blanks following : List Char}
    (blank : ∀ character ∈ blanks, Text.isBlank character = true)
    (laid : Laid lexemes following) : Laid lexemes (blanks ++ following) := by
  induction blanks with
  | nil => exact laid
  | cons character rest induction =>
      rw [List.forall_mem_cons] at blank
      exact .blank blank.1 (induction blank.2)

namespace Numeral

/-- A numeral with a sign as an expression. -/
def draft (negative : Bool) (numeral : Numeral) : Draft :=
  if negative then .unary .neg (.literal (.number numeral)) else .literal (.number numeral)

/-- A numeral ends where blanks do. -/
theorem endsBefore_blanks (numeral : Numeral) {blanks : List Char}
    (blank : ∀ character ∈ blanks, Text.isBlank character = true) :
    (Lexeme.literal (.number numeral)).EndsBefore blanks := by
  intro next member
  obtain ⟨noDigit, -, noPoint⟩ :=
    Token.not_part_of_blank (blank next (List.mem_of_mem_head? member))
  rw [Lexeme.takes, noDigit, Bool.false_or]
  exact beq_eq_false_iff_ne.mpr noPoint

theorem laid_signed (negative : Bool) (numeral : Numeral) {before after : List Char}
    (blank : ∀ character ∈ before, Text.isBlank character = true)
    (blank' : ∀ character ∈ after, Text.isBlank character = true) :
    Laid ((numeral.draft negative).lexemes BinaryOp.loosest)
      (before ++ numeral.signed negative ++ after) := by
  have rest : Laid [] after := by
    have laid := Laid.nil.blanks blank'
    rwa [List.append_nil] at laid
  have number : Laid [.literal (.number numeral)] (numeral.text ++ after) :=
    .lexeme (numeral.endsBefore_blanks blank') rest
  rw [List.append_assoc]
  apply Laid.blanks blank
  cases negative with
  | false => exact number
  | true => exact @Laid.lexeme (.operator .sub) _ _ (fun next member => rfl) number

theorem nesting_draft (negative : Bool) (numeral : Numeral) :
    (numeral.draft negative).nesting BinaryOp.loosest ≤ maxNesting := by
  cases negative with
  | false => exact Nat.zero_le _
  | true => exact Nat.le_add_left 1 99

/-- A numeral with a sign and with blanks around is parsed to the tree of its draft. -/
theorem parse_signed {source : String} {negative : Bool} {numeral : Numeral}
    {before after : List Char} (whole : source.toList = before ++ numeral.signed negative ++ after)
    (blank : ∀ character ∈ before, Text.isBlank character = true)
    (blank' : ∀ character ∈ after, Text.isBlank character = true) :
    Expression.parse source = .ok ⟨source, (numeral.draft negative).tree⟩ := by
  have laid := numeral.laid_signed negative blank blank'
  rw [← whole] at laid
  obtain ⟨tree, same, parsed, -⟩ := Expression.parse_of_laid laid
  rw [parsed (numeral.nesting_draft negative)]
  cases negative with
  | false =>
      rw [Tree.eq_literal_of_withoutSpans same]
      rfl
  | true =>
      rw [Tree.eq_unary_of_withoutSpans same]
      rfl

/-- The sign of a numeral is the operator, in front of the opposite number. -/
theorem tree_draft (negative : Bool) (numeral : Numeral) :
    (numeral.draft negative).tree =
      if (numeral.signed negative).head? = some '-' then
        .unary .neg (.literal (.number (-numeral.decimal.toNumber negative)))
      else .literal (.number (numeral.decimal.toNumber negative)) := by
  cases negative with
  | false =>
      rw [if_neg]
      · rfl
      · intro minus
        obtain ⟨rest, same⟩ := List.head?_eq_some_iff.mp minus
        exact numeral.head_ne_minus rest same
  | true =>
      rw [if_pos (by rfl), numeral.decimal.neg_toNumber]
      rfl

/-- The value of a numeral with a sign needs no function and cannot fail. -/
theorem evaluate_draft {m : Type → Type} [Monad m] [LawfulMonad m] {Code : Type}
    (environment : Environment m Code) (negative : Bool) (numeral : Numeral) :
    (numeral.draft negative).tree.evaluate environment =
      pure (.number (numeral.decimal.toNumber negative)) := by
  cases negative with
  | false => rfl
  | true =>
      have opposite : -numeral.number = numeral.decimal.toNumber true :=
        numeral.decimal.neg_toNumber false
      rw [← opposite]
      exact pure_bind _ _

end Numeral

/-! ## Sources of one token -/

namespace Token.Cut

variable {following characters : List Char} {offset : Nat} {token : Token}

theorem blank_of_nil (cut : Cut following offset characters []) :
    ∀ character ∈ characters, Text.isBlank character = true := by
  generalize none : ([] : List Token) = tokens at cut
  induction cut with
  | nil => simp
  | blank isBlank cut induction => exact List.forall_mem_cons.mpr ⟨isBlank, induction none⟩
  | token lexes cut => cases none

/-- A text of one token is this token with blanks around. -/
theorem singleton (cut : Cut following offset characters [token]) :
    ∃ before text after,
      characters = before ++ text ++ after ∧
        (∀ character ∈ before, Text.isBlank character = true) ∧
          (∀ character ∈ after, Text.isBlank character = true) ∧
            Lexes token.kind token.value.toList text (after ++ following) := by
  generalize one : [token] = tokens at cut
  induction cut with
  | nil => cases one
  | @blank offset character rest tokens isBlank cut induction =>
      obtain ⟨before, text, after, rfl, blank, blank', lexes⟩ := induction one
      exact ⟨character :: before, text, after, rfl, List.forall_mem_cons.mpr ⟨isBlank, blank⟩,
        blank', lexes⟩
  | @token offset kind value text rest tokens lexes cut =>
      cases one
      refine ⟨[], text, rest, rfl, by simp, cut.blank_of_nil, ?_⟩
      rw [String.toList_ofList]
      exact lexes

end Token.Cut

/-- The text of a number token is a numeral. -/
theorem Token.Lexes.exists_numeral {value text following : List Char}
    (lexes : Lexes .number value text following) :
    ∃ numeral : Numeral, numeral.text = text ∧ numeral.text = value := by
  generalize kind : TokenKind.number = written at lexes
  cases lexes with
  | @number numeral following longest => exact ⟨numeral, rfl, rfl⟩
  | word start parts ends => exact absurd kind.symm (wordKind_ne_literal (.inl rfl) _ _)
  | _ => cases kind

/-! ## The readers agree -/

namespace Expression

/--
A text with a numeric view is parsed to a literal, or to the negation of one if it begins with a
minus sign, and whatever functions there are, this has the number of the view as its value.  A
source that consists of one number has the number as its numeric view, if it is finite.
-/
theorem number_readers_agree :
    (∀ (source : String) (number : Number),
      (Value.text source).asNumber? = some number →
        ∃ tree,
          parse source = .ok ⟨source, tree⟩ ∧
          (tree =
            if (Text.trim source).toList.head? = some '-' then
              .unary .neg (.literal (.number (-number)))
            else .literal (.number number)) ∧
          ∀ (m : Type → Type) [Monad m] [LawfulMonad m] (Code : Type)
            (environment : Environment m Code),
            tree.evaluate environment = pure (.number number)) ∧
    ∀ (source : String) (token : Token),
      Token.tokenize source = .ok [token] → token.kind = .number →
        ∃ number,
          Tree.literalValue token.kind token.value = .ok (.number number) ∧
          (Value.text source).asNumber? = if number.isFinite then some number else none := by
  refine ⟨?_, ?_⟩
  · intro source number found
    obtain ⟨negative, numeral, before, after, whole, blank, blank', rfl, -⟩ :=
      Value.asNumber?_text_eq_some_iff.mp found
    refine ⟨(numeral.draft negative).tree, numeral.parse_signed whole blank blank', ?_, ?_⟩
    · rw [Value.trim_of_signed whole blank blank']
      exact numeral.tree_draft negative
    · intro m _ _ Code environment
      exact numeral.evaluate_draft environment negative
  · intro source token tokenized kind
    obtain ⟨before, text, after, whole, blank, blank', lexes⟩ :=
      (Token.tokenize_eq_ok_iff.mp tokenized).singleton
    rw [kind] at lexes
    obtain ⟨numeral, rfl, content⟩ := lexes.exists_numeral
    have signed : source.toList = before ++ numeral.signed false ++ after := whole
    refine ⟨numeral.number, ?_, ?_⟩
    · rw [kind]
      exact @Literal.literalValue (.number numeral) token.value content.symm
    · rw [Value.asNumber?_of_signed signed blank blank', Option.filter_some]
      rfl

/-- A number with a sign between blanks of two kinds, and a number without a sign. -/
theorem number_readers_agree_signed :
    (∃ number tree,
      (Value.text "\u2003-007.50 ").asNumber? = some number ∧
      parse "\u2003-007.50 " = .ok ⟨"\u2003-007.50 ", tree⟩ ∧
      tree = .unary .neg (.literal (.number (-number))) ∧
      ∀ environment : Environment Id Unit,
        tree.evaluate environment = pure (.number number)) ∧
    ∃ number,
      Tree.literalValue .number "12" = .ok (.number number) ∧
      (Value.text " 12\t").asNumber? = if number.isFinite then some number else none := by
  obtain ⟨parsed, literal⟩ := number_readers_agree
  constructor
  · obtain ⟨number, found⟩ : ∃ number, (Value.text "\u2003-007.50 ").asNumber? = some number :=
      Option.isSome_iff_exists.mp (by decide +kernel)
    obtain ⟨tree, accepted, shape, value⟩ := parsed _ number found
    rw [if_pos (by decide +kernel)] at shape
    exact ⟨number, tree, found, accepted, shape, value Id Unit⟩
  · have tokenized : Token.tokenize " 12\t" = .ok [⟨.number, "12", ⟨1, 3⟩⟩] :=
      eq_ok_of_toOption (by decide +kernel)
    exact literal _ _ tokenized rfl

end Expression

end Vigil
