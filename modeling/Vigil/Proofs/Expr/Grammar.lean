import Vigil.Expression

/-!
# The grammar of expressions

Which lists of tokens are expressions, which trees they stand for, and how deep they are nested,
said without a reader.  Tiers are read from the highest-binding one outwards: an expression of
tier `n + 1` is an expression of tier `n`, or it is continued to the right by an operator of tier
`n + 1` and an expression of tier `n`.  Every parenthesis, call and unary operator nests what it
encloses one level deeper, and the operand after the `k`-th operator of a chain is nested `k`
levels deeper.

The main statement is `Tree.ofTokens_derives`: what the reader accepts has a derivation whose
nesting stays within the levels that the reader allows.
-/

namespace Vigil

/--
The phrases of the grammar: an expression of a tier, written as a chain with a number of links of
that tier, and the arguments of a call.
-/
inductive Phrase where
  | expression (tier links : Nat)
  | arguments
deriving DecidableEq, Repr

/--
`Derives phrase nesting tokens trees` says that the tokens are a phrase of the given kind which
stands for the trees and is nested as deep as given.  An expression stands for one tree.
-/
inductive Derives : Phrase → Nat → List Token → List Tree → Prop where
  | literal {token : Token} {value : Value}
      (known : Tree.literalValue token.kind token.value = .ok value) :
      Derives (.expression 0 0) 0 [token] [.literal value]
  | parentheses {links nesting : Nat} {left right : Token} {tokens : List Token} {tree : Tree}
      (opened : left.kind = .leftParen)
      (closed : right.kind = .rightParen)
      (inner : Derives (.expression BinaryOp.loosest links) nesting tokens [tree]) :
      Derives (.expression 0 0) (nesting + 1) (left :: tokens ++ [right]) [tree]
  | callWithout {name left right : Token}
      (named : name.kind = .function)
      (opened : left.kind = .leftParen)
      (closed : right.kind = .rightParen) :
      Derives (.expression 0 0) 1 [name, left, right]
        [.call name.value [] ⟨name.span.start, right.span.stop⟩]
  | callWith {nesting : Nat} {name left right : Token} {tokens : List Token} {trees : List Tree}
      (named : name.kind = .function)
      (opened : left.kind = .leftParen)
      (closed : right.kind = .rightParen)
      (inner : Derives .arguments nesting tokens trees) :
      Derives (.expression 0 0) (nesting + 1) (name :: left :: tokens ++ [right])
        [.call name.value trees ⟨name.span.start, right.span.stop⟩]
  | unary {nesting : Nat} {token : Token} {op : UnaryOp} {tokens : List Token} {tree : Tree}
      (written : token.kind = .operator op.operator)
      (operand : Derives (.expression 0 0) nesting tokens [tree]) :
      Derives (.expression 0 0) (nesting + 1) (token :: tokens) [.unary op tree]
  | tighter {tier links nesting : Nat} {tokens : List Token} {tree : Tree}
      (inner : Derives (.expression tier links) nesting tokens [tree]) :
      Derives (.expression (tier + 1) 0) nesting tokens [tree]
  | link {tier links links' nesting nesting' : Nat} {token : Token} {op : BinaryOp}
      {before after : List Token} {left right : Tree}
      (chain : Derives (.expression (tier + 1) links) nesting before [left])
      (written : token.kind = .operator op.operator)
      (listed : op.tier = tier + 1)
      (operand : Derives (.expression tier links') nesting' after [right]) :
      Derives (.expression (tier + 1) (links + 1)) (max nesting (links + 1 + nesting'))
        (before ++ token :: after) [.binary op left right]
  | lastArgument {links nesting : Nat} {tokens : List Token} {tree : Tree}
      (argument : Derives (.expression BinaryOp.loosest links) nesting tokens [tree]) :
      Derives .arguments nesting tokens [tree]
  | argument {links nesting nesting' : Nat} {comma : Token} {before after : List Token}
      {tree : Tree} {trees : List Tree}
      (first : Derives (.expression BinaryOp.loosest links) nesting before [tree])
      (separated : comma.kind = .comma)
      (others : Derives .arguments nesting' after trees) :
      Derives .arguments (max nesting nesting') (before ++ comma :: after) (tree :: trees)

/-! ## Operators of tokens -/

theorem Token.binaryOf?_eq_some_iff {tier : Nat} {token : Token} {op : BinaryOp} :
    token.binaryOf? tier = some op ↔
      token.kind = .operator op.operator ∧ op.tier = tier := by
  rw [Token.binaryOf?]
  split
  · next written kind =>
    rw [kind, TokenKind.operator.injEq, Option.filter_eq_some_iff,
      Operator.binary?_eq_some_iff, beq_iff_eq]
  · next other =>
    constructor
    · intro impossible
      cases impossible
    · rintro ⟨kind, -⟩
      exact (other _ kind).elim

theorem Token.unary?_eq_some_iff {token : Token} {op : UnaryOp} :
    token.unary? = some op ↔ token.kind = .operator op.operator := by
  rw [Token.unary?]
  split
  · next written kind =>
    rw [kind, TokenKind.operator.injEq, Operator.unary?_eq_some_iff]
  · next other =>
    constructor
    · intro impossible
      cases impossible
    · intro kind
      exact (other _ kind).elim

namespace Tree

/-! ## The reader follows the grammar -/

mutual

theorem ofTier_derives {finish room tier : Nat} {tokens rest : List Token} {tree : Tree}
    (read : ofTier finish room tier tokens = .ok (tree, rest)) :
    ∃ used links nesting,
      tokens = used ++ rest ∧ nesting ≤ room ∧
        Derives (.expression tier links) nesting used [tree] := by
  unfold ofTier at read
  split at read
  · rcases ofOperand_derives read with ⟨used, nesting, whole, within, derived⟩
    exact ⟨used, 0, nesting, whole, within, derived⟩
  · next tier =>
    split at read
    · next first remaining firstRead =>
      rcases ofTier_derives firstRead with ⟨used, links, nesting, whole, within, derived⟩
      obtain ⟨more, links', nesting', whole', within', derived'⟩ :=
        ofChain_derives read (Nat.add_zero room) within derived.tighter
      refine ⟨used ++ more, links', nesting', ?_, within', derived'⟩
      rw [whole, whole', List.append_assoc]
    · cases read
termination_by (room, tier + 3, 0)

theorem ofChain_derives
    {finish room tier total links nesting : Nat}
    {left tree : Tree}
    {used tokens rest : List Token}
    (read : ofChain finish room tier left tokens = .ok (tree, rest))
    (spent : room + links = total)
    (within : nesting ≤ total)
    (chain : Derives (.expression (tier + 1) links) nesting used [left]) :
    ∃ more links' nesting',
      tokens = more ++ rest ∧ nesting' ≤ total ∧
        Derives (.expression (tier + 1) links') nesting' (used ++ more) [tree] := by
  unfold ofChain at read
  split at read
  · cases read
    exact ⟨[], links, nesting, rfl, within, by simpa using chain⟩
  · next token remaining =>
    split at read
    · cases read
      exact ⟨[], links, nesting, rfl, within, by simpa using chain⟩
    · next op isLink =>
      rcases Token.binaryOf?_eq_some_iff.mp isLink with ⟨written, listed⟩
      split at read
      · cases read
      · next room =>
        split at read
        · next right after rightRead =>
          rcases ofTier_derives rightRead with ⟨operand, _, depth, whole, shallow, derived⟩
          have spent' : room + (links + 1) = total := by omega
          have deeper : max nesting (links + 1 + depth) ≤ total := by omega
          obtain ⟨more, links', nesting', whole', within', derived'⟩ :=
            ofChain_derives read spent' deeper (chain.link written listed derived)
          refine ⟨token :: operand ++ more, links', nesting', ?_, within', ?_⟩
          · simp [whole, whole']
          · simpa using derived'
        · cases read
termination_by (room, 2, 0)

theorem ofOperand_derives {finish room : Nat} {tokens rest : List Token} {tree : Tree}
    (read : ofOperand finish room tokens = .ok (tree, rest)) :
    ∃ used nesting,
      tokens = used ++ rest ∧ nesting ≤ room ∧
        Derives (.expression 0 0) nesting used [tree] := by
  unfold ofOperand at read
  split at read
  · cases read
  · next token remaining =>
    split at read
    · rcases ofPrimary_derives read with ⟨used, nesting, whole, within, derived⟩
      exact ⟨used, nesting, whole, within, derived⟩
    · next op isUnary =>
      split at read
      · cases read
      · next room =>
        split at read
        · next operand after operandRead =>
          rcases ofOperand_derives operandRead with ⟨used, nesting, whole, within, derived⟩
          cases read
          refine ⟨token :: used, nesting + 1, ?_, by omega, ?_⟩
          · rw [whole, List.cons_append]
          · exact derived.unary (Token.unary?_eq_some_iff.mp isUnary)
        · cases read
termination_by (room, 1, 0)

theorem ofPrimary_derives
    {finish room : Nat} {token : Token} {following rest : List Token} {tree : Tree}
    (read : ofPrimary finish room token following = .ok (tree, rest)) :
    ∃ used nesting,
      token :: following = used ++ rest ∧ nesting ≤ room ∧
        Derives (.expression 0 0) nesting used [tree] := by
  unfold ofPrimary at read
  split at read
  · next named =>
    split at read
    · next written place _ =>
      let left : Token := ⟨.leftParen, written, place⟩
      split at read
      · cases read
      · next room =>
        split at read
        · next written close _ =>
          cases read
          let right : Token := ⟨.rightParen, written, close⟩
          exact ⟨[token, left, right], 1, rfl, by omega, .callWithout named rfl rfl⟩
        · split at read
          · next argumentsRead =>
            cases read
            obtain ⟨used, close, nesting, whole, closed, stopped, within, derived⟩ :=
              ofArguments_derives argumentsRead
            subst stopped
            refine ⟨token :: left :: used ++ [close], nesting + 1, ?_, by omega,
              derived.callWith named rfl closed⟩
            simp [whole, left]
          · cases read
    · cases read
  · next opened =>
    split at read
    · cases read
    · next room =>
      split at read
      · next written close _ innerRead =>
        cases read
        rcases ofTier_derives innerRead with ⟨used, _, nesting, whole, within, derived⟩
        let right : Token := ⟨.rightParen, written, close⟩
        refine ⟨token :: used ++ [right], nesting + 1, ?_, by omega,
          derived.parentheses opened rfl⟩
        simp [whole, right]
      · cases read
      · cases read
  · split at read
    · next known =>
      cases read
      exact ⟨[token], 0, rfl, Nat.zero_le room, .literal known⟩
    · cases read
termination_by (room, 0, 0)

theorem ofArguments_derives
    {finish room stop : Nat} {name : Token} {tokens rest : List Token} {trees : List Tree}
    (read : ofArguments finish room name tokens = .ok ((trees, stop), rest)) :
    ∃ used close nesting,
      tokens = used ++ close :: rest ∧ close.kind = .rightParen ∧ close.span.stop = stop ∧
        nesting ≤ room ∧ Derives .arguments nesting used trees := by
  unfold ofArguments at read
  split at read
  · cases read
  · cases read
  · split at read
    · cases read
    · next argumentRead =>
      cases read
      rcases ofTier_derives argumentRead with ⟨used, _, nesting, whole, within, derived⟩
      exact ⟨used, _, nesting, whole, rfl, rfl, within, derived.lastArgument⟩
    · next written place _ argumentRead =>
      rcases ofTier_derives argumentRead with ⟨used, _, nesting, whole, within, derived⟩
      let comma : Token := ⟨.comma, written, place⟩
      split at read
      · split at read
        · next others =>
          cases read
          obtain ⟨used', close, nesting', whole', closed, stopped, within', derived'⟩ :=
            ofArguments_derives others
          refine ⟨used ++ comma :: used', close, max nesting nesting', ?_, closed, stopped,
            Nat.max_le.mpr ⟨within, within'⟩, derived.argument rfl derived'⟩
          simp [whole, whole', comma]
        · cases read
      · cases read
    · cases read
termination_by (room, BinaryOp.loosest + 4, tokens.length)

end

/-- What is read from all tokens is derived within the levels that an expression may take. -/
theorem ofTokens_derives {finish : Nat} {tokens : List Token} {tree : Tree}
    (read : ofTokens finish tokens = .ok tree) :
    ∃ links nesting,
      nesting ≤ maxNesting ∧
        Derives (.expression BinaryOp.loosest links) nesting tokens [tree] := by
  rw [ofTokens] at read
  split at read
  · cases read
  · split at read
    · cases read
    · next whole =>
      cases read
      rcases ofTier_derives whole with ⟨used, links, nesting, consumed, within, derived⟩
      rw [List.append_nil] at consumed
      exact ⟨links, nesting, within, consumed ▸ derived⟩
    · split at read <;> cases read

end Tree

/-- A text that is read as an expression consists of tokens that derive its tree. -/
theorem Expression.derives_of_read {source : String} {tree : Tree}
    (accepted : Expression.read source = .ok tree) :
    ∃ tokens links nesting,
      Token.scan source = .ok tokens ∧ nesting ≤ maxNesting ∧
        Derives (.expression BinaryOp.loosest links) nesting tokens [tree] := by
  rw [Expression.read] at accepted
  cases scanned : Token.scan source with
  | error failure =>
      rw [scanned] at accepted
      cases accepted
  | ok tokens =>
      rw [scanned] at accepted
      rcases Tree.ofTokens_derives accepted with ⟨links, nesting, within, derived⟩
      exact ⟨tokens, links, nesting, rfl, within, derived⟩

end Vigil
