import Vigil.Expr.SyntaxError
import Vigil.Expr.Tree

/-!
# From tokens to trees

Expressions have the shape of the tiers of their operators: an expression of tier `n + 1` is a
chain of expressions of tier `n` between operators of tier `n + 1`, grouped from the left. Below
the lowest tier stand the unary operators, and below them literals, calls and parentheses.

Every parenthesis, call, unary operator and further link of a chain takes one level of nesting,
and no expression may take more than `maxNesting` levels. The functions below are given the
`room` that is left, and recursion stops where there is none.
-/

namespace Vigil

/-- The most levels that an expression may be nested. -/
def maxNesting : Nat := 100

/-- The binary operator of a tier that a token is, if it is one. -/
def Token.binaryOf? (tier : Nat) (token : Token) : Option BinaryOp :=
  match token.kind with
  | .operator written => written.binary?.filter (·.tier == tier)
  | _ => none

/-- The unary operator that a token is, if it is one. -/
def Token.unary? (token : Token) : Option UnaryOp :=
  match token.kind with
  | .operator written => written.unary?
  | _ => none

namespace Tree

/-- What is read off the front of some tokens, and the tokens after it. -/
abbrev Reading (α : Type) : Type := Except SyntaxFailure (α × List Token)

/-- The value of a literal token. -/
def literalValue (kind : TokenKind) (value : String) : Except SyntaxFault Value :=
  match kind with
  | .boolean => .ok (.boolean (Text.sameIgnoringCase value.toList "true".toList))
  | .number =>
    match Decimal.read? value.toList with
    | some decimal => .ok (.number (decimal.toNumber false))
    | none => .error (.invalidNumber value)
  | .string => .ok (.text value)
  | .identifier => .error (.bareIdentifier value)
  | .comma => .error .emptyArgument
  | _ => .error (.valueExpected value)

/-- The place of the first of some tokens; `finish` is the end of the source. -/
def place (finish : Nat) : List Token → Nat
  | [] => finish
  | token :: _ => token.span.start

mutual

/-- An expression of a tier. Tier zero holds the unary operators and all that binds closer. -/
def ofTier (finish room : Nat) (tier : Nat) (tokens : List Token) : Reading Tree :=
  match tier with
  | 0 => ofOperand finish room tokens
  | tier + 1 =>
    match ofTier finish room tier tokens with
    | .ok (first, rest) => ofChain finish room tier first rest
    | .error failure => .error failure
termination_by (room, tier + 3, 0)

/-- What a chain of operators of tier `tier + 1` makes of the operand on its left. -/
def ofChain (finish room tier : Nat) (left : Tree) (tokens : List Token) : Reading Tree :=
  match tokens with
  | [] => .ok (left, [])
  | token :: rest =>
    match token.binaryOf? (tier + 1) with
    | none => .ok (left, token :: rest)
    | some op =>
      match room with
      | 0 => .error ⟨token.span.start, .nestedTooDeeply⟩
      | room + 1 =>
        match ofTier finish room tier rest with
        | .ok (right, rest) => ofChain finish room tier (.binary op left right) rest
        | .error failure => .error failure
termination_by (room, 2, 0)

/-- A unary operator with its operand, or what stands below the operators. -/
def ofOperand (finish room : Nat) (tokens : List Token) : Reading Tree :=
  match tokens with
  | [] => .error ⟨finish, .endOfInput⟩
  | token :: rest =>
    match token.unary? with
    | none => ofPrimary finish room token rest
    | some op =>
      match room with
      | 0 => .error ⟨token.span.start, .nestedTooDeeply⟩
      | room + 1 =>
        match ofOperand finish room rest with
        | .ok (operand, rest) => .ok (.unary op operand, rest)
        | .error failure => .error failure
termination_by (room, 1, 0)

/-- A literal, a call or an expression in parentheses that starts with a given token. -/
def ofPrimary (finish room : Nat) (token : Token) (rest : List Token) : Reading Tree :=
  match token.kind with
  | .function =>
    match rest with
    | ⟨.leftParen, _, _⟩ :: rest =>
      match room with
      | 0 => .error ⟨token.span.start, .nestedTooDeeply⟩
      | room + 1 =>
        match rest with
        | ⟨.rightParen, _, close⟩ :: rest =>
          .ok (.call token.value [] ⟨token.span.start, close.stop⟩, rest)
        | _ =>
          match ofArguments finish room token rest with
          | .ok ((arguments, stop), rest) =>
            .ok (.call token.value arguments ⟨token.span.start, stop⟩, rest)
          | .error failure => .error failure
    | _ => .error ⟨place finish rest, .missingArgumentList⟩
  | .leftParen =>
    match room with
    | 0 => .error ⟨token.span.start, .nestedTooDeeply⟩
    | room + 1 =>
      match ofTier finish room BinaryOp.loosest rest with
      | .ok (inner, ⟨.rightParen, _, _⟩ :: rest) => .ok (inner, rest)
      | .ok _ => .error ⟨token.span.start, .unclosedParenthesis⟩
      | .error failure => .error failure
  | kind =>
    match literalValue kind token.value with
    | .ok value => .ok (.literal value, rest)
    | .error fault => .error ⟨token.span.start, fault⟩
termination_by (room, 0, 0)

/--
The arguments of a call of the function `name`, and the byte after the parenthesis that closes
them. An argument takes at least one token, so the tokens after its comma are fewer.
-/
def ofArguments (finish room : Nat) (name : Token) (tokens : List Token) :
    Reading (List Tree × Nat) :=
  match tokens with
  | ⟨.comma, _, span⟩ :: _ => .error ⟨span.start, .emptyArgument⟩
  | ⟨.rightParen, _, span⟩ :: _ => .error ⟨span.start, .emptyArgument⟩
  | tokens =>
    match ofTier finish room BinaryOp.loosest tokens with
    | .error failure => .error failure
    | .ok (argument, ⟨.rightParen, _, close⟩ :: rest) => .ok (([argument], close.stop), rest)
    | .ok (argument, ⟨.comma, _, _⟩ :: rest) =>
      if rest.length < tokens.length then
        match ofArguments finish room name rest with
        | .ok ((arguments, stop), rest) => .ok ((argument :: arguments, stop), rest)
        | .error failure => .error failure
      else
        .error ⟨name.span.start, .unclosedCall name.value⟩
    | .ok _ => .error ⟨name.span.start, .unclosedCall name.value⟩
termination_by (room, BinaryOp.loosest + 4, tokens.length)

end

/-- The tree of all tokens of a source that ends at byte `finish`. -/
def ofTokens (finish : Nat) (tokens : List Token) : Except SyntaxFailure Tree :=
  if tokens.isEmpty then
    .error ⟨0, .emptyExpression⟩
  else
    match ofTier finish maxNesting BinaryOp.loosest tokens with
    | .error failure => .error failure
    | .ok (tree, []) => .ok tree
    | .ok (_, token :: _) =>
      match token.kind with
      | .rightParen => .error ⟨token.span.start, .unopenedParenthesis⟩
      | _ => .error ⟨token.span.start, .trailingToken token.value⟩

end Tree

end Vigil
