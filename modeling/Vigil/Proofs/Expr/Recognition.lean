import Vigil.Proofs.Expr.Mentions

/-!
# The reader recognises the grammar

`Tree.ofTokens_derives` says that what is read has a derivation.  Here is the converse: a phrase is
read off the front of any tokens, provided that the levels suffice and that the token after it does
not continue the phrase.  The two together make the reader decide the grammar, and since a reader
has one answer, tokens stand for one tree at most.

A chain is derived from its last link inwards but read from its first operand on.  So what is said
of a chain is not that it is read, but that reading it comes down to reading on after it, with the
levels of its links taken.
-/

namespace Vigil

/-- What may come after an expression of a tier: no operator that the expression would take up. -/
def Token.Follow (tier : Nat) (rest : List Token) : Prop :=
  ∀ token ∈ rest.head?, ∀ op : BinaryOp, token.kind = .operator op.operator → tier < op.tier

theorem BinaryOp.operator_injective {first second : BinaryOp}
    (same : first.operator = second.operator) : first = second := by
  cases first <;> cases second <;> first | rfl | cases same

namespace Token

theorem follow_nil (tier : Nat) : Follow tier [] := by
  intro token member
  cases member

theorem follow_of_kind {tier : Nat} {token : Token} {rest : List Token}
    (other : ∀ written, token.kind ≠ .operator written) : Follow tier (token :: rest) := by
  intro head member op written
  cases member
  exact absurd written (other op.operator)

/-- An operator comes after the expressions of all tiers below its own. -/
theorem follow_of_operator {tier : Nat} {token : Token} {op : BinaryOp} {rest : List Token}
    (written : token.kind = .operator op.operator) (above : tier < op.tier) :
    Follow tier (token :: rest) := by
  intro head member other writtenToo
  cases member
  rw [written, TokenKind.operator.injEq] at writtenToo
  rw [← BinaryOp.operator_injective writtenToo]
  exact above

theorem unary?_eq_none {token : Token} (other : ∀ written, token.kind ≠ .operator written) :
    token.unary? = none := by
  rw [unary?]
  split
  · next written kind => exact absurd kind (other written)
  · rfl

end Token

/-- A phrase starts with a token, which neither closes a parenthesis nor separates arguments. -/
theorem Derives.starts {phrase : Phrase} {nesting : Nat} {tokens : List Token} {trees : List Tree}
    (derived : Derives phrase nesting tokens trees) :
    ∃ token more,
      tokens = token :: more ∧ token.kind ≠ .rightParen ∧ token.kind ≠ .comma := by
  induction derived with
  | @literal token value known =>
      refine ⟨token, [], rfl, ?_, ?_⟩
      · intro closed
        rw [closed] at known
        cases known
      · intro separated
        rw [separated] at known
        cases known
  | parentheses opened closed inner => exact ⟨_, _, rfl, by simp [opened], by simp [opened]⟩
  | callWithout named opened closed => exact ⟨_, _, rfl, by simp [named], by simp [named]⟩
  | callWith named opened closed inner => exact ⟨_, _, rfl, by simp [named], by simp [named]⟩
  | unary written operand => exact ⟨_, _, rfl, by simp [written], by simp [written]⟩
  | tighter inner induction => exact induction
  | link chain written listed operand chainInduction =>
      rcases chainInduction with ⟨token, more, whole, kind⟩
      exact ⟨token, more ++ _ :: _, by rw [whole, List.cons_append], kind⟩
  | lastArgument argument induction => exact induction
  | argument first separated others firstInduction =>
      rcases firstInduction with ⟨token, more, whole, kind⟩
      exact ⟨token, more ++ _ :: _, by rw [whole, List.cons_append], kind⟩

namespace Tree

variable {finish room : Nat} {rest : List Token}

/-! ## One turn of the reader -/

theorem ofChain_of_follow {tier : Nat} (follow : Token.Follow (tier + 1) rest) (left : Tree) :
    ofChain finish room tier left rest = .ok (left, rest) := by
  cases rest with
  | nil => rw [ofChain]
  | cons token rest =>
      cases isLink : token.binaryOf? (tier + 1) with
      | none => rw [ofChain, isLink]
      | some op =>
          rcases Token.binaryOf?_eq_some_iff.mp isLink with ⟨written, listed⟩
          have above := follow token rfl op written
          omega

theorem ofChain_of_operator {tier : Nat} {token : Token} {op : BinaryOp}
    (written : token.kind = .operator op.operator) (listed : op.tier = tier + 1)
    {left right : Tree} {tokens : List Token}
    (operand : ofTier finish room tier tokens = .ok (right, rest)) :
    ofChain finish (room + 1) tier left (token :: tokens) =
      ofChain finish room tier (.binary op left right) rest := by
  have isLink : token.binaryOf? (tier + 1) = some op :=
    Token.binaryOf?_eq_some_iff.mpr ⟨written, listed⟩
  rw [ofChain, isLink]
  dsimp only
  rw [operand]

theorem ofOperand_of_primary {token : Token} (notUnary : token.unary? = none)
    (tokens : List Token) :
    ofOperand finish room (token :: tokens) = ofPrimary finish room token tokens := by
  rw [ofOperand, notUnary]

theorem ofOperand_of_unary {token : Token} {op : UnaryOp} {tree : Tree} {tokens : List Token}
    (written : token.kind = .operator op.operator)
    (operand : ofOperand finish room tokens = .ok (tree, rest)) :
    ofOperand finish (room + 1) (token :: tokens) = .ok (.unary op tree, rest) := by
  have isUnary : token.unary? = some op := Token.unary?_eq_some_iff.mpr written
  rw [ofOperand, isUnary]
  dsimp only
  rw [operand]

/-- A literal stands for its value. -/
theorem ofPrimary_of_literal {token : Token} {value : Value}
    (known : literalValue token.kind token.value = .ok value) :
    ofPrimary finish room token rest = .ok (.literal value, rest) := by
  unfold ofPrimary
  split
  · next named =>
    rw [named] at known
    cases known
  · next opened =>
    rw [opened] at known
    cases known
  · rw [known]

theorem ofPrimary_of_parentheses {left right : Token} {tree : Tree} {tokens : List Token}
    (opened : left.kind = .leftParen) (closed : right.kind = .rightParen)
    (inner : ofTier finish room BinaryOp.loosest tokens = .ok (tree, right :: rest)) :
    ofPrimary finish (room + 1) left tokens = .ok (tree, rest) := by
  rcases right with ⟨kind, written, place⟩
  cases closed
  unfold ofPrimary
  rw [opened]
  dsimp only
  rw [inner]

theorem ofPrimary_of_callWithout {name left right : Token}
    (named : name.kind = .function) (opened : left.kind = .leftParen)
    (closed : right.kind = .rightParen) :
    ofPrimary finish (room + 1) name (left :: right :: rest) =
      .ok (.call name.value [] ⟨name.span.start, right.span.stop⟩, rest) := by
  rcases left with ⟨kind, written, place⟩
  cases opened
  rcases right with ⟨kind, written', place'⟩
  cases closed
  unfold ofPrimary
  rw [named]

theorem ofPrimary_of_callWith {name left : Token} {stop : Nat} {trees : List Tree}
    {tokens : List Token}
    (named : name.kind = .function) (opened : left.kind = .leftParen)
    (inhabited : ∀ token ∈ tokens.head?, token.kind ≠ .rightParen)
    (arguments : ofArguments finish room name tokens = .ok ((trees, stop), rest)) :
    ofPrimary finish (room + 1) name (left :: tokens) =
      .ok (.call name.value trees ⟨name.span.start, stop⟩, rest) := by
  rcases left with ⟨kind, written, place⟩
  cases opened
  unfold ofPrimary
  rw [named]
  dsimp only
  split
  · next written' place' rest' =>
    exact absurd rfl (inhabited ⟨.rightParen, written', place'⟩ rfl)
  · rw [arguments]

/-! ## Arguments -/

section Arguments

variable {name : Token} {tree : Tree} {tokens : List Token}
variable (inhabited : ∀ token ∈ tokens.head?, token.kind ≠ .rightParen ∧ token.kind ≠ .comma)
include inhabited

theorem ofArguments_of_last {right : Token} (closed : right.kind = .rightParen)
    (argument : ofTier finish room BinaryOp.loosest tokens = .ok (tree, right :: rest)) :
    ofArguments finish room name tokens = .ok (([tree], right.span.stop), rest) := by
  rcases right with ⟨kind, written, place⟩
  cases closed
  unfold ofArguments
  split
  · next written' place' rest' => exact absurd rfl (inhabited ⟨.comma, written', place'⟩ rfl).2
  · next written' place' rest' =>
    exact absurd rfl (inhabited ⟨.rightParen, written', place'⟩ rfl).1
  · rw [argument]

theorem ofArguments_of_comma {comma : Token} (separated : comma.kind = .comma)
    {others : List Token} {trees : List Tree} {stop : Nat}
    (shorter : others.length < tokens.length)
    (first : ofTier finish room BinaryOp.loosest tokens = .ok (tree, comma :: others))
    (later : ofArguments finish room name others = .ok ((trees, stop), rest)) :
    ofArguments finish room name tokens = .ok ((tree :: trees, stop), rest) := by
  rcases comma with ⟨kind, written, place⟩
  cases separated
  unfold ofArguments
  split
  · next written' place' rest' => exact absurd rfl (inhabited ⟨.comma, written', place'⟩ rfl).2
  · next written' place' rest' =>
    exact absurd rfl (inhabited ⟨.rightParen, written', place'⟩ rfl).1
  · rw [first]
    dsimp only
    rw [if_pos shorter, later]

end Arguments

/-! ## Reading what is derived -/

/--
What a reader with enough levels makes of a phrase.  An expression of tier zero is read whatever
comes after it.  Reading a chain comes down to reading on with the levels that its links leave.
Arguments are read together with the parenthesis that closes them.
-/
def Reads (finish : Nat) (phrase : Phrase) (nesting : Nat) (tokens : List Token)
    (trees : List Tree) : Prop :=
  match phrase with
  | .expression 0 _ =>
    ∀ tree, trees = [tree] → ∀ room rest, nesting ≤ room →
      ofOperand finish room (tokens ++ rest) = .ok (tree, rest)
  | .expression (tier + 1) links =>
    ∀ tree, trees = [tree] → ∀ room rest, nesting ≤ room → Token.Follow tier rest →
      ofTier finish room (tier + 1) (tokens ++ rest) =
        ofChain finish (room - links) tier tree rest
  | .arguments =>
    ∀ name right room rest, nesting ≤ room → right.kind = .rightParen →
      ofArguments finish room name (tokens ++ right :: rest) =
        .ok ((trees, right.span.stop), rest)

/-- An expression of any tier is read as a whole where nothing continues it. -/
theorem Reads.ofTier {tier links nesting : Nat} {tokens : List Token} {tree : Tree}
    (reads : Reads finish (.expression tier links) nesting tokens [tree])
    (within : nesting ≤ room) (follow : Token.Follow tier rest) :
    Tree.ofTier finish room tier (tokens ++ rest) = .ok (tree, rest) := by
  cases tier with
  | zero =>
      rw [Tree.ofTier]
      exact reads tree rfl room rest within
  | succ tier =>
      have looser : Token.Follow tier rest := fun token member op written =>
        Nat.lt_of_succ_lt (follow token member op written)
      rw [reads tree rfl room rest within looser]
      exact ofChain_of_follow follow tree

end Tree

open Vigil.Tree

/-- Whatever has a derivation is read as the grammar says, given levels enough for its nesting. -/
theorem Derives.reads (finish : Nat) {phrase : Phrase} {nesting : Nat} {tokens : List Token}
    {trees : List Tree} (derived : Derives phrase nesting tokens trees) :
    Reads finish phrase nesting tokens trees := by
  induction derived with
  | @literal token value known =>
      intro tree same room rest within
      cases same
      have notUnary : ∀ written, token.kind ≠ .operator written := by
        intro written isOperator
        rw [isOperator] at known
        cases known
      rw [List.singleton_append, ofOperand_of_primary (Token.unary?_eq_none notUnary)]
      exact ofPrimary_of_literal known
  | @parentheses links nesting left right tokens tree opened closed inner induction =>
      intro tree same room rest within
      cases same
      obtain ⟨room, rfl⟩ := Nat.exists_eq_add_one.mpr (Nat.zero_lt_of_lt within)
      have ends : Token.Follow BinaryOp.loosest (right :: rest) :=
        Token.follow_of_kind (by simp [closed])
      have read := induction.ofTier (Nat.le_of_succ_le_succ within) ends
      simp only [List.cons_append, List.append_assoc, List.nil_append]
      rw [ofOperand_of_primary (Token.unary?_eq_none (by simp [opened]))]
      exact ofPrimary_of_parentheses opened closed read
  | callWithout named opened closed =>
      intro tree same room rest within
      cases same
      obtain ⟨room, rfl⟩ := Nat.exists_eq_add_one.mpr (Nat.zero_lt_of_lt within)
      rw [List.cons_append, ofOperand_of_primary (Token.unary?_eq_none (by simp [named]))]
      exact ofPrimary_of_callWithout named opened closed
  | @callWith nesting name left right tokens trees named opened closed inner induction =>
      intro tree same room rest within
      cases same
      obtain ⟨room, rfl⟩ := Nat.exists_eq_add_one.mpr (Nat.zero_lt_of_lt within)
      have inhabited : ∀ token ∈ (tokens ++ right :: rest).head?, token.kind ≠ .rightParen := by
        rcases inner.starts with ⟨first, more, rfl, notClosed, -⟩
        intro token member
        cases member
        exact notClosed
      have read := induction name right room rest (Nat.le_of_succ_le_succ within) closed
      simp only [List.cons_append, List.append_assoc, List.nil_append]
      rw [ofOperand_of_primary (Token.unary?_eq_none (by simp [named]))]
      exact ofPrimary_of_callWith named opened inhabited read
  | unary written operand induction =>
      intro tree same room rest within
      cases same
      obtain ⟨room, rfl⟩ := Nat.exists_eq_add_one.mpr (Nat.zero_lt_of_lt within)
      have read := induction _ rfl room rest (Nat.le_of_succ_le_succ within)
      rw [List.cons_append]
      exact ofOperand_of_unary written read
  | tighter inner induction =>
      intro tree same room rest within follow
      cases same
      rw [Tree.ofTier, induction.ofTier within follow, Nat.sub_zero]
  | @link tier links links' nesting nesting' token op before after left right
      chain written listed operand chainInduction operandInduction =>
      intro tree same room rest within follow
      cases same
      have chainWithin : nesting ≤ room := Nat.le_trans (Nat.le_max_left _ _) within
      have operandWithin : nesting' ≤ room - (links + 1) := by omega
      have comes : Token.Follow tier (token :: (after ++ rest)) :=
        Token.follow_of_operator written (by omega)
      have read := operandInduction.ofTier operandWithin follow
      -- The chain so far is read up to the operator, which takes one more level.
      rw [List.append_assoc, List.cons_append, chainInduction left rfl room _ chainWithin comes,
        show room - links = room - (links + 1) + 1 by omega]
      exact ofChain_of_operator written listed read
  | lastArgument argument induction =>
      intro name right room rest within closed
      rcases argument.starts with ⟨first, more, rfl, kind⟩
      have ends : Token.Follow BinaryOp.loosest (right :: rest) :=
        Token.follow_of_kind (by simp [closed])
      refine ofArguments_of_last ?_ closed (induction.ofTier within ends)
      intro token member
      cases member
      exact kind
  | @argument links nesting nesting' comma before after tree trees first separated others
      firstInduction othersInduction =>
      intro name right room rest within closed
      rcases first.starts with ⟨head, more, rfl, kind⟩
      have ends : Token.Follow BinaryOp.loosest (comma :: (after ++ right :: rest)) :=
        Token.follow_of_kind (by simp [separated])
      have read := firstInduction.ofTier (Nat.le_trans (Nat.le_max_left _ _) within) ends
      have later := othersInduction name right room rest
        (Nat.le_trans (Nat.le_max_right _ _) within) closed
      rw [List.append_assoc, List.cons_append]
      refine ofArguments_of_comma ?_ separated ?_ read later
      · intro token member
        cases member
        exact kind
      · simp only [List.length_append, List.length_cons]
        omega

/-! ## Reader and grammar agree -/

/-- Tokens that are an expression which stands for a tree and is nested within some levels. -/
def DerivesWithin (levels : Nat) (tokens : List Token) (tree : Tree) : Prop :=
  ∃ links nesting,
    nesting ≤ levels ∧ Derives (.expression BinaryOp.loosest links) nesting tokens [tree]

/-- However deep they are nested, tokens stand for one tree at most. -/
theorem DerivesWithin.unique {levels levels' : Nat} {tokens : List Token} {tree tree' : Tree}
    (derived : DerivesWithin levels tokens tree) (derived' : DerivesWithin levels' tokens tree') :
    tree = tree' := by
  rcases derived with ⟨links, nesting, -, first⟩
  rcases derived' with ⟨links', nesting', -, second⟩
  -- One reader with levels enough for both derivations gives both trees.
  have end' := Token.follow_nil BinaryOp.loosest
  have one := (first.reads 0).ofTier (Nat.le_max_left nesting nesting') end'
  have other := (second.reads 0).ofTier (Nat.le_max_right nesting nesting') end'
  rw [one] at other
  cases other
  rfl

theorem Tree.ofTokens_eq_ok_iff {finish : Nat} {tokens : List Token} {tree : Tree} :
    ofTokens finish tokens = .ok tree ↔ DerivesWithin maxNesting tokens tree := by
  constructor
  · intro read
    exact ofTokens_derives read
  · rintro ⟨links, nesting, within, derived⟩
    rcases derived.starts with ⟨first, more, rfl, -⟩
    have read := (derived.reads finish).ofTier within (Token.follow_nil BinaryOp.loosest)
    rw [List.append_nil] at read
    rw [ofTokens, List.isEmpty_cons, if_neg Bool.false_ne_true, read]

namespace Expression

/-- A text is read token by token, and then its tokens as a whole. -/
theorem read_eq_of_tokenize {source : String} {tokens : List Token}
    (tokenized : Token.tokenize source = .ok tokens) :
    read source = Tree.ofTokens source.utf8ByteSize tokens := by
  rw [Token.tokenize] at tokenized
  cases scanned : Token.scan source with
  | error failure =>
      rw [scanned] at tokenized
      cases tokenized
  | ok others =>
      rw [scanned] at tokenized
      cases tokenized
      rw [read, scanned]
      rfl

/-- Parsing is reading; what it adds on failure is a report. -/
theorem parse_eq_ok_iff {source : String} {tree : Tree} :
    parse source = .ok ⟨source, tree⟩ ↔ read source = .ok tree := by
  rw [parse]
  cases read source with
  | error failure => simp
  | ok other => simp

theorem parse_eq_ok_iff_derives {source : String} {tokens : List Token} {tree : Tree}
    (tokenized : Token.tokenize source = .ok tokens) :
    parse source = .ok ⟨source, tree⟩ ↔ DerivesWithin maxNesting tokens tree := by
  rw [parse_eq_ok_iff, read_eq_of_tokenize tokenized]
  exact Tree.ofTokens_eq_ok_iff

end Expression

/--
A text that consists of tokens is parsed to a tree exactly if its tokens derive this tree within
the levels that an expression may take.  All other tokens give a syntax error, and no tokens derive
two trees, whatever the nesting.  The tiers of the grammar are those of `BinaryOp.tiers`.
-/
theorem parse_recognises_grammar {source : String} {tokens : List Token}
    (tokenized : Token.tokenize source = .ok tokens) :
    (∀ tree,
      Expression.parse source = .ok ⟨source, tree⟩ ↔ DerivesWithin maxNesting tokens tree) ∧
    ((∀ tree, ¬DerivesWithin maxNesting tokens tree) →
      ∃ error : SyntaxError, Expression.parse source = .error error) ∧
    (∀ levels levels' tree tree',
      DerivesWithin levels tokens tree → DerivesWithin levels' tokens tree' → tree = tree') ∧
    ∀ op : BinaryOp, op.tier = BinaryOp.tiers.findIdx (op ∈ ·) + 1 := by
  refine ⟨fun tree => Expression.parse_eq_ok_iff_derives tokenized, ?_, ?_, BinaryOp.tier_eq⟩
  · intro underivable
    cases parsed : Expression.parse source with
    | error error => exact ⟨error, rfl⟩
    | ok expression =>
        have read := Expression.read_of_parse parsed
        rw [Expression.read_eq_of_tokenize tokenized] at read
        exact absurd (Tree.ofTokens_eq_ok_iff.mp read) (underivable expression.tree)
  · intro levels levels' tree tree' derived derived'
    exact derived.unique derived'

theorem parse_recognises_grammar_negation :
    Expression.parse "!'a' = f()" =
      .ok ⟨"!'a' = f()", .binary .eq (.unary .not (.literal (.text "a"))) (.call "f" [] ⟨7, 10⟩)⟩ := by
  have tokenized :
      Token.tokenize "!'a' = f()" =
        .ok
          [⟨.operator .not, "!", ⟨0, 1⟩⟩, ⟨.string, "a", ⟨1, 4⟩⟩, ⟨.operator .eq, "=", ⟨5, 6⟩⟩,
            ⟨.function, "f", ⟨7, 8⟩⟩, ⟨.leftParen, "(", ⟨8, 9⟩⟩, ⟨.rightParen, ")", ⟨9, 10⟩⟩] :=
    eq_ok_of_toOption (by decide +kernel)
  refine ((parse_recognises_grammar tokenized).1 _).mpr ⟨0, 2, by decide, ?_⟩
  have negated : Derives (.expression 0 0) 1
      [⟨.operator .not, "!", ⟨0, 1⟩⟩, ⟨.string, "a", ⟨1, 4⟩⟩] [.unary .not (.literal (.text "a"))] :=
    .unary rfl (.literal rfl)
  have called : Derives (.expression 0 0) 1
      [⟨.function, "f", ⟨7, 8⟩⟩, ⟨.leftParen, "(", ⟨8, 9⟩⟩, ⟨.rightParen, ")", ⟨9, 10⟩⟩]
      [.call "f" [] ⟨7, 10⟩] :=
    .callWithout rfl rfl rfl
  -- Negation binds its operand before the equality does.
  have compared := @Derives.link 3 0 0 1 1 ⟨.operator .eq, "=", ⟨5, 6⟩⟩ .eq _ _ _ _
    negated.tighter.tighter.tighter.tighter rfl rfl called.tighter.tighter.tighter
  exact compared.tighter.tighter

end Vigil
