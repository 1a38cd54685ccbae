import Vigil.Proofs.Expr.Recognition

/-!
# What is nested too deeply

`Derives.reads` is about readers that have levels enough for the nesting of a phrase.  Here is what
becomes of the others: they fail, and for no other reason than that they have no levels left.  So
the nesting of a derivation is what the reader counts, level by level.

A reader fails at the first phrase that it has no levels for.  All that comes before this phrase is
read as `Derives.reads` says.
-/

namespace Vigil

namespace Tree

/-- Reading has failed for want of levels. -/
def TooDeep {α : Type} (reading : Reading α) : Prop :=
  ∃ place, reading = .error ⟨place, .nestedTooDeeply⟩

variable {finish room : Nat}

/-! ## One turn of the reader -/

theorem TooDeep.ofTier {tier : Nat} {tokens : List Token}
    (inner : TooDeep (Tree.ofTier finish room tier tokens)) :
    TooDeep (Tree.ofTier finish room (tier + 1) tokens) := by
  rcases inner with ⟨place, failed⟩
  exact ⟨place, by rw [Tree.ofTier, failed]⟩

theorem TooDeep.ofTier_zero {tokens : List Token}
    (operand : TooDeep (ofOperand finish room tokens)) :
    TooDeep (Tree.ofTier finish room 0 tokens) := by
  rwa [Tree.ofTier]

/-- A chain goes on only with a level for its next operand. -/
theorem ofChain_tooDeep {tier : Nat} {token : Token} {op : BinaryOp}
    (written : token.kind = .operator op.operator) (listed : op.tier = tier + 1)
    {left : Tree} {tokens : List Token}
    (operand : ∀ below, room = below + 1 → TooDeep (Tree.ofTier finish below tier tokens)) :
    TooDeep (ofChain finish room tier left (token :: tokens)) := by
  have isLink : token.binaryOf? (tier + 1) = some op :=
    Token.binaryOf?_eq_some_iff.mpr ⟨written, listed⟩
  rw [ofChain, isLink]
  cases room with
  | zero => exact ⟨_, rfl⟩
  | succ below =>
      rcases operand below rfl with ⟨place, failed⟩
      exact ⟨place, by simp [failed]⟩

theorem ofOperand_tooDeep {token : Token} {op : UnaryOp} {tokens : List Token}
    (written : token.kind = .operator op.operator)
    (operand : ∀ below, room = below + 1 → TooDeep (ofOperand finish below tokens)) :
    TooDeep (ofOperand finish room (token :: tokens)) := by
  have isUnary : token.unary? = some op := Token.unary?_eq_some_iff.mpr written
  rw [ofOperand, isUnary]
  cases room with
  | zero => exact ⟨_, rfl⟩
  | succ below =>
      rcases operand below rfl with ⟨place, failed⟩
      exact ⟨place, by simp [failed]⟩

theorem ofPrimary_tooDeep_of_parentheses {left : Token} {tokens : List Token}
    (opened : left.kind = .leftParen)
    (inner : ∀ below, room = below + 1 →
      TooDeep (Tree.ofTier finish below BinaryOp.loosest tokens)) :
    TooDeep (ofPrimary finish room left tokens) := by
  unfold ofPrimary
  rw [opened]
  cases room with
  | zero => exact ⟨_, rfl⟩
  | succ below =>
      rcases inner below rfl with ⟨place, failed⟩
      exact ⟨place, by simp [failed]⟩

theorem ofPrimary_tooDeep_of_call {name left : Token} {tokens : List Token}
    (named : name.kind = .function) (opened : left.kind = .leftParen)
    (arguments : ∀ below, room = below + 1 →
      (∀ token ∈ tokens.head?, token.kind ≠ .rightParen) ∧
        TooDeep (ofArguments finish below name tokens)) :
    TooDeep (ofPrimary finish room name (left :: tokens)) := by
  rcases left with ⟨kind, written, place⟩
  cases opened
  unfold ofPrimary
  rw [named]
  cases room with
  | zero => exact ⟨_, rfl⟩
  | succ below =>
      obtain ⟨inhabited, place', failed⟩ := arguments below rfl
      dsimp only
      split
      · next written' place' rest' =>
        exact absurd rfl (inhabited ⟨.rightParen, written', place'⟩ rfl)
      · exact ⟨place', by rw [failed]⟩

section Arguments

variable {name : Token} {tokens : List Token}
variable (inhabited : ∀ token ∈ tokens.head?, token.kind ≠ .rightParen ∧ token.kind ≠ .comma)
include inhabited

theorem ofArguments_tooDeep_of_first
    (argument : TooDeep (Tree.ofTier finish room BinaryOp.loosest tokens)) :
    TooDeep (ofArguments finish room name tokens) := by
  rcases argument with ⟨place, failed⟩
  refine ⟨place, ?_⟩
  unfold ofArguments
  split
  · next written' place' rest' => exact absurd rfl (inhabited ⟨.comma, written', place'⟩ rfl).2
  · next written' place' rest' =>
    exact absurd rfl (inhabited ⟨.rightParen, written', place'⟩ rfl).1
  · rw [failed]

theorem ofArguments_tooDeep_of_later {comma : Token} (separated : comma.kind = .comma)
    {tree : Tree} {others : List Token}
    (shorter : others.length < tokens.length)
    (first : Tree.ofTier finish room BinaryOp.loosest tokens = .ok (tree, comma :: others))
    (later : TooDeep (ofArguments finish room name others)) :
    TooDeep (ofArguments finish room name tokens) := by
  rcases later with ⟨place, failed⟩
  rcases comma with ⟨kind, written, place'⟩
  cases separated
  refine ⟨place, ?_⟩
  unfold ofArguments
  split
  · next written' place' rest' => exact absurd rfl (inhabited ⟨.comma, written', place'⟩ rfl).2
  · next written' place' rest' =>
    exact absurd rfl (inhabited ⟨.rightParen, written', place'⟩ rfl).1
  · rw [first]
    dsimp only
    rw [if_pos shorter, failed]

end Arguments

/-! ## Reading what is nested too deeply -/

/-- What becomes of a reader with fewer levels than a phrase is nested. -/
def Exceeds (finish : Nat) (phrase : Phrase) (nesting : Nat) (tokens : List Token) : Prop :=
  match phrase with
  | .expression 0 _ =>
    ∀ room rest, room < nesting → TooDeep (ofOperand finish room (tokens ++ rest))
  | .expression (tier + 1) _ =>
    ∀ room rest, room < nesting → TooDeep (Tree.ofTier finish room (tier + 1) (tokens ++ rest))
  | .arguments =>
    ∀ name right room rest, room < nesting → right.kind = .rightParen →
      TooDeep (ofArguments finish room name (tokens ++ right :: rest))

theorem Exceeds.ofTier {tier links nesting : Nat} {tokens : List Token}
    (exceeds : Exceeds finish (.expression tier links) nesting tokens)
    (tooFew : room < nesting) (rest : List Token) :
    TooDeep (Tree.ofTier finish room tier (tokens ++ rest)) := by
  cases tier with
  | zero => exact (exceeds room rest tooFew).ofTier_zero
  | succ tier => exact exceeds room rest tooFew

end Tree

open Vigil.Tree

/-- The head of a phrase is that of the phrase with more tokens after it. -/
theorem Derives.head {phrase : Phrase} {nesting : Nat} {tokens : List Token} {trees : List Tree}
    (derived : Derives phrase nesting tokens trees) (rest : List Token) :
    ∀ token ∈ (tokens ++ rest).head?, token.kind ≠ .rightParen ∧ token.kind ≠ .comma := by
  rcases derived.starts with ⟨first, more, rfl, kind⟩
  intro token member
  cases member
  exact kind

/-- Without levels enough for its nesting, a phrase is not read for want of levels. -/
theorem Derives.exceeds (finish : Nat) {phrase : Phrase} {nesting : Nat} {tokens : List Token}
    {trees : List Tree} (derived : Derives phrase nesting tokens trees) :
    Exceeds finish phrase nesting tokens := by
  induction derived with
  | literal known =>
      intro room rest tooFew
      exact absurd tooFew (Nat.not_lt_zero room)
  | @parentheses links nesting left right tokens tree opened closed inner induction =>
      intro room rest tooFew
      simp only [List.cons_append, List.append_assoc, List.nil_append]
      rw [ofOperand_of_primary (Token.unary?_eq_none (by simp [opened]))]
      refine ofPrimary_tooDeep_of_parentheses opened fun below same => ?_
      exact induction.ofTier (by omega) (right :: rest)
  | @callWithout name left right named opened closed =>
      intro room rest tooFew
      rw [List.cons_append, ofOperand_of_primary (Token.unary?_eq_none (by simp [named]))]
      refine ofPrimary_tooDeep_of_call named opened fun below same => ?_
      omega
  | @callWith nesting name left right tokens trees named opened closed inner induction =>
      intro room rest tooFew
      simp only [List.cons_append, List.append_assoc, List.nil_append]
      rw [ofOperand_of_primary (Token.unary?_eq_none (by simp [named]))]
      refine ofPrimary_tooDeep_of_call named opened fun below same => ⟨?_, ?_⟩
      · intro token member
        exact (inner.head (right :: rest) token member).1
      · exact induction name right below rest (by omega) closed
  | unary written operand induction =>
      intro room rest tooFew
      rw [List.cons_append]
      refine ofOperand_tooDeep written fun below same => ?_
      exact induction below rest (by omega)
  | tighter inner induction =>
      intro room rest tooFew
      exact (induction.ofTier tooFew rest).ofTier
  | @link tier links links' nesting nesting' token op before after left right
      chain written listed operand chainInduction operandInduction =>
      intro room rest tooFew
      rw [List.append_assoc, List.cons_append]
      by_cases chainWithin : nesting ≤ room
      · -- The chain so far is read, and the level that its operator takes is the one that fails.
        have comes : Token.Follow tier (token :: (after ++ rest)) :=
          Token.follow_of_operator written (by omega)
        rw [chain.reads finish left rfl room _ chainWithin comes]
        refine ofChain_tooDeep written listed fun below same => ?_
        exact operandInduction.ofTier (by omega) rest
      · exact chainInduction room _ (by omega)
  | lastArgument argument induction =>
      intro name right room rest tooFew closed
      exact ofArguments_tooDeep_of_first (argument.head _) (induction.ofTier tooFew _)
  | @argument links nesting nesting' comma before after tree trees first separated others
      firstInduction othersInduction =>
      intro name right room rest tooFew closed
      rw [List.append_assoc, List.cons_append]
      by_cases firstWithin : nesting ≤ room
      · have ends : Token.Follow BinaryOp.loosest (comma :: (after ++ right :: rest)) :=
          Token.follow_of_kind (by simp [separated])
        have read := (first.reads finish).ofTier firstWithin ends
        have later := othersInduction name right room rest (by omega) closed
        refine ofArguments_tooDeep_of_later (first.head _) separated ?_ read later
        simp only [List.length_append, List.length_cons]
        omega
      · exact ofArguments_tooDeep_of_first (first.head _) (firstInduction.ofTier (by omega) _)

/-- Tokens whose derivation takes more levels than there are fail for want of levels. -/
theorem Tree.ofTokens_of_exceeding
    (finish : Nat) {links nesting : Nat} {tokens : List Token} {tree : Tree}
    (derived : Derives (.expression BinaryOp.loosest links) nesting tokens [tree])
    (tooDeep : maxNesting < nesting) :
    ∃ place, ofTokens finish tokens = .error ⟨place, .nestedTooDeeply⟩ := by
  rcases (derived.exceeds finish).ofTier tooDeep [] with ⟨place, failed⟩
  rcases derived.starts with ⟨first, more, rfl, -⟩
  rw [List.append_nil] at failed
  refine ⟨place, ?_⟩
  rw [ofTokens, List.isEmpty_cons, if_neg Bool.false_ne_true, failed]

end Vigil
