import Mathlib.Data.List.Infix
import Vigil.Proofs.Expr.Recognition

/-!
# Reading by positions

The reader takes tokens off the front of a list.  Here it reads the same expressions from a list
that stays as it is, with a cursor that moves over its positions.  Twice it looks back at the token
that the cursor has just passed: for the place of an operator in a chain, and for the end of a call.
There is no token before the first one and none behind the last, so such a look can fail, and a
reading that fails in this way is told from one that finds a fault in the text.

The main statements are `Cursor.ofTokens_eq` and `Cursor.read_eq`: both readers have the same
answers, so the cursor never looks at a position where no token is.  The position that belongs to
what is left of the tokens is their number less that of those which are left, and `Cursor.located`
says of an answer of the one reader which answer of the other it is.
-/

namespace Vigil

/-- Why a reading by positions ends early: a fault of the text, or a position without a token. -/
inductive Halt where
  | failure (failure : SyntaxFailure)
  | outside (position : Nat)
deriving DecidableEq, Repr

namespace Cursor

/-- What is read from a position on, and the position after it. -/
abbrev Reading (α : Type) : Type := Except Halt (α × Nat)

section Reader

variable (tokens : List Token) (finish : Nat)

/-! ## Moving the cursor -/

/-- The place of the token at a position; `finish` is the end of the source. -/
def place (position : Nat) : Nat :=
  match tokens[position]? with
  | some token => token.span.start
  | none => finish

/-- The token before a position, where there has to be one. -/
def passed (position : Nat) : Except Halt Token :=
  match position with
  | 0 => .error (.outside 0)
  | position + 1 =>
    match tokens[position]? with
    | some token => .ok token
    | none => .error (.outside position)

/-- The position after a token of a given kind, if such a token is next. -/
def eat? (kind : TokenKind) (position : Nat) : Option Nat :=
  match tokens[position]? with
  | some token => if token.kind = kind then some (position + 1) else none
  | none => none

/-- Whether the next token ends an argument. -/
def endsArgument (position : Nat) : Bool :=
  tokens[position]?.any fun token => token.kind == .comma || token.kind == .rightParen

/-- The binary operator of a tier that is next, if one is, and the position after it. -/
def eatBinary? (tier position : Nat) : Option (BinaryOp × Nat) :=
  (tokens[position]?.bind (Token.binaryOf? tier)).map (·, position + 1)

/-- The unary operator that is next, if one is, and the position after it. -/
def eatUnary? (position : Nat) : Option (UnaryOp × Nat) :=
  (tokens[position]?.bind Token.unary?).map (·, position + 1)

/-- A call that ends with the token before a position. -/
def endCall (name : Token) (arguments : List Tree) (position : Nat) : Reading Tree :=
  match passed tokens position with
  | .ok last => .ok (.call name.value arguments ⟨name.span.start, last.span.stop⟩, position)
  | .error halt => .error halt

/-! ## The reader -/

mutual

/-- An expression of a tier. Tier zero holds the unary operators and all that binds closer. -/
def ofTier (room tier position : Nat) : Reading Tree :=
  match tier with
  | 0 => ofOperand room position
  | tier + 1 =>
    match ofTier room tier position with
    | .ok (first, next) => ofChain room tier first next
    | .error halt => .error halt
termination_by (room, tier + 3, 0)

/-- What a chain of operators of tier `tier + 1` makes of the operand on its left. -/
def ofChain (room tier : Nat) (left : Tree) (position : Nat) : Reading Tree :=
  match eatBinary? tokens (tier + 1) position with
  | none => .ok (left, position)
  | some (op, next) =>
    match passed tokens next with
    | .error halt => .error halt
    | .ok operator =>
      match room with
      | 0 => .error (.failure ⟨operator.span.start, .nestedTooDeeply⟩)
      | room + 1 =>
        match ofTier room tier next with
        | .ok (right, next) => ofChain room tier (.binary op left right) next
        | .error halt => .error halt
termination_by (room, 2, 0)

/-- A unary operator with its operand, or what stands below the operators. -/
def ofOperand (room position : Nat) : Reading Tree :=
  match eatUnary? tokens position with
  | none => ofPrimary room position
  | some (op, next) =>
    match room with
    | 0 => .error (.failure ⟨place tokens finish position, .nestedTooDeeply⟩)
    | room + 1 =>
      match ofOperand room next with
      | .ok (operand, next) => .ok (.unary op operand, next)
      | .error halt => .error halt
termination_by (room, 1, 0)

/-- A literal, a call or an expression in parentheses. -/
def ofPrimary (room position : Nat) : Reading Tree :=
  match tokens[position]? with
  | none => .error (.failure ⟨finish, .endOfInput⟩)
  | some token =>
    match token.kind with
    | .function => ofCall room token (position + 1)
    | .leftParen =>
      match room with
      | 0 => .error (.failure ⟨token.span.start, .nestedTooDeeply⟩)
      | room + 1 =>
        match ofTier room BinaryOp.loosest (position + 1) with
        | .ok (inner, next) =>
          match eat? tokens .rightParen next with
          | some next => .ok (inner, next)
          | none => .error (.failure ⟨token.span.start, .unclosedParenthesis⟩)
        | .error halt => .error halt
    | kind =>
      match Tree.literalValue kind token.value with
      | .ok value => .ok (.literal value, position + 1)
      | .error fault => .error (.failure ⟨token.span.start, fault⟩)
termination_by (room, 0, 1)

/-- A call of the function `name`, from its argument list on. -/
def ofCall (room : Nat) (name : Token) (position : Nat) : Reading Tree :=
  match eat? tokens .leftParen position with
  | none => .error (.failure ⟨place tokens finish position, .missingArgumentList⟩)
  | some next =>
    match room with
    | 0 => .error (.failure ⟨name.span.start, .nestedTooDeeply⟩)
    | room + 1 =>
      match eat? tokens .rightParen next with
      | some next => endCall tokens name [] next
      | none =>
        match ofArguments room name next with
        | .ok (arguments, next) => endCall tokens name arguments next
        | .error halt => .error halt
termination_by (room, 0, 0)

/--
The arguments of a call of the function `name`, up to the position after the parenthesis that closes
them. An argument takes at least one token, so fewer are left after its comma.
-/
def ofArguments (room : Nat) (name : Token) (position : Nat) : Reading (List Tree) :=
  if endsArgument tokens position then
    .error (.failure ⟨place tokens finish position, .emptyArgument⟩)
  else
    match ofTier room BinaryOp.loosest position with
    | .error halt => .error halt
    | .ok (argument, next) =>
      match eat? tokens .comma next with
      | some next =>
        if tokens.length - next < tokens.length - position then
          match ofArguments room name next with
          | .ok (arguments, next) => .ok (argument :: arguments, next)
          | .error halt => .error halt
        else
          .error (.outside next)
      | none =>
        match eat? tokens .rightParen next with
        | some next => .ok ([argument], next)
        | none => .error (.failure ⟨name.span.start, .unclosedCall name.value⟩)
termination_by (room, BinaryOp.loosest + 4, tokens.length - position)

end

/-- The tree of all tokens of a source that ends at byte `finish`. -/
def ofTokens : Except Halt Tree :=
  if tokens.isEmpty then
    .error (.failure ⟨0, .emptyExpression⟩)
  else
    match ofTier tokens finish maxNesting BinaryOp.loosest 0 with
    | .error halt => .error halt
    | .ok (tree, next) =>
      match tokens[next]? with
      | none => .ok tree
      | some token =>
        match token.kind with
        | .rightParen => .error (.failure ⟨token.span.start, .unopenedParenthesis⟩)
        | _ => .error (.failure ⟨token.span.start, .trailingToken token.value⟩)

end Reader

/-- The tree of a source, whose tokens are read by positions. -/
def read (source : String) : Except Halt Tree :=
  match Token.scan source with
  | .ok tokens => ofTokens tokens source.utf8ByteSize
  | .error failure => .error (.failure failure)

/-! ## What is left of the tokens -/

/-- The position at which some tokens are left. -/
def positionOf (tokens rest : List Token) : Nat :=
  tokens.length - rest.length

/-- The answer of a reader with a cursor that belongs to an answer of a reader without one. -/
def located (tokens : List Token) {α : Type} : Tree.Reading α → Reading α
  | .ok (value, rest) => .ok (value, positionOf tokens rest)
  | .error failure => .error (.failure failure)

section Left

variable {tokens rest : List Token} {token : Token} {kind : TokenKind} {finish : Nat}

theorem getElem?_positionOf (left : rest <:+ tokens) :
    tokens[positionOf tokens rest]? = rest.head? := by
  have same := List.suffix_iff_eq_drop.mp left
  rw [positionOf, ← List.head?_drop, ← same]

theorem positionOf_cons (left : token :: rest <:+ tokens) :
    positionOf tokens (token :: rest) + 1 = positionOf tokens rest := by
  have within := left.length_le
  rw [List.length_cons] at within
  rw [positionOf, positionOf, List.length_cons]
  omega

theorem length_sub_positionOf (left : rest <:+ tokens) :
    tokens.length - positionOf tokens rest = rest.length :=
  Nat.sub_sub_self left.length_le

theorem suffix_of_cons (left : token :: rest <:+ tokens) : rest <:+ tokens :=
  (List.suffix_cons token rest).trans left

theorem place_positionOf (left : rest <:+ tokens) :
    place tokens finish (positionOf tokens rest) = Tree.place finish rest := by
  rw [place, getElem?_positionOf left]
  cases rest <;> rfl

/-- Where a token has been taken off, it is the one that was passed. -/
theorem passed_positionOf (left : token :: rest <:+ tokens) :
    passed tokens (positionOf tokens rest) = .ok token := by
  have here := getElem?_positionOf left
  rw [← positionOf_cons left, passed, here]
  rfl

theorem eat?_of_kind (left : token :: rest <:+ tokens) (same : token.kind = kind) :
    eat? tokens kind (positionOf tokens (token :: rest)) = some (positionOf tokens rest) := by
  have here := getElem?_positionOf left
  rw [eat?, here, ← positionOf_cons left]
  exact if_pos same

theorem eat?_of_ne (left : rest <:+ tokens) (other : ∀ token ∈ rest.head?, token.kind ≠ kind) :
    eat? tokens kind (positionOf tokens rest) = none := by
  rw [eat?, getElem?_positionOf left]
  cases rest with
  | nil => rfl
  | cons token rest => exact if_neg (other token rfl)

theorem endsArgument_of_kind (left : token :: rest <:+ tokens)
    (ends : token.kind = .comma ∨ token.kind = .rightParen) :
    endsArgument tokens (positionOf tokens (token :: rest)) = true := by
  have here := getElem?_positionOf left
  rw [endsArgument, here]
  rcases ends with same | same <;> simp [same]

theorem endsArgument_of_ne (left : rest <:+ tokens)
    (notComma : ∀ token ∈ rest.head?, token.kind ≠ .comma)
    (notClosed : ∀ token ∈ rest.head?, token.kind ≠ .rightParen) :
    endsArgument tokens (positionOf tokens rest) = false := by
  rw [endsArgument, getElem?_positionOf left]
  cases rest with
  | nil => rfl
  | cons token rest => simp [notComma token rfl, notClosed token rfl]

theorem eatBinary?_cons (left : token :: rest <:+ tokens) (tier : Nat) :
    eatBinary? tokens tier (positionOf tokens (token :: rest)) =
      (token.binaryOf? tier).map (·, positionOf tokens rest) := by
  have here := getElem?_positionOf left
  rw [eatBinary?, here, positionOf_cons left]
  rfl

theorem eatUnary?_cons (left : token :: rest <:+ tokens) :
    eatUnary? tokens (positionOf tokens (token :: rest)) =
      token.unary?.map (·, positionOf tokens rest) := by
  have here := getElem?_positionOf left
  rw [eatUnary?, here, positionOf_cons left]
  rfl

/-- A call ends where the last of its tokens does. -/
theorem endCall_positionOf (left : token :: rest <:+ tokens) (name : Token)
    (arguments : List Tree) :
    endCall tokens name arguments (positionOf tokens rest) =
      .ok (.call name.value arguments ⟨name.span.start, token.span.stop⟩,
        positionOf tokens rest) := by
  rw [endCall, passed_positionOf left]

theorem kind_ne_of_not_cons
    (other : ∀ value span more, rest = ⟨kind, value, span⟩ :: more → False) :
    ∀ token ∈ rest.head?, token.kind ≠ kind := by
  rintro ⟨kind', value, span⟩ member rfl
  rcases List.head?_eq_some_iff.mp member with ⟨more, same⟩
  exact other value span more same

/-- The same of what is left behind something that was read. -/
theorem kind_ne_of_not_read {α : Type} {found : α}
    (other : ∀ found' value span more,
      (found, rest) = (found', ⟨kind, value, span⟩ :: more) → False) :
    ∀ token ∈ rest.head?, token.kind ≠ kind :=
  kind_ne_of_not_cons fun value span more same => other found value span more (by rw [same])

end Left

end Cursor

namespace Tree

variable {finish room tier : Nat} {tokens rest : List Token} {tree : Tree}

/-- What is left behind an expression is an end of the tokens, and shorter. -/
theorem suffix_of_ofTier (read : ofTier finish room tier tokens = .ok (tree, rest)) :
    rest <:+ tokens ∧ rest.length < tokens.length := by
  obtain ⟨used, links, nesting, rfl, -, derived⟩ := ofTier_derives read
  rcases derived.starts with ⟨first, more, rfl, -⟩
  refine ⟨List.suffix_append _ _, ?_⟩
  rw [List.length_append, List.length_cons]
  omega

end Tree

namespace Cursor

/-! ## Both readers agree -/

-- Both readers call themselves in the same places, so the induction is on their common measure.
-- What is left behind an operand is an end of the tokens again, so it goes on from there.
mutual

theorem located_ofTier {tokens rest : List Token} {finish room tier : Nat}
    (left : rest <:+ tokens) :
    located tokens (Tree.ofTier finish room tier rest) =
      ofTier tokens finish room tier (positionOf tokens rest) := by
  unfold Tree.ofTier ofTier
  cases tier with
  | zero => exact located_ofOperand left
  | succ tier =>
      dsimp only
      rw [← located_ofTier left]
      cases read : Tree.ofTier finish room tier rest with
      | error failure => rfl
      | ok result => exact located_ofChain ((Tree.suffix_of_ofTier read).1.trans left)
termination_by (room, tier + 3, 0)

theorem located_ofChain {tokens rest : List Token} {finish room tier : Nat} {operand : Tree}
    (left : rest <:+ tokens) :
    located tokens (Tree.ofChain finish room tier operand rest) =
      ofChain tokens finish room tier operand (positionOf tokens rest) := by
  unfold Tree.ofChain ofChain
  cases rest with
  | nil =>
      rw [eatBinary?, getElem?_positionOf left]
      rfl
  | cons token rest =>
      have left' := suffix_of_cons left
      rw [eatBinary?_cons left]
      dsimp only
      cases isLink : token.binaryOf? (tier + 1) with
      | none => rfl
      | some op =>
          dsimp only [Option.map_some]
          rw [passed_positionOf left]
          cases room with
          | zero => rfl
          | succ room =>
              dsimp only
              rw [← located_ofTier left']
              cases read : Tree.ofTier finish room tier rest with
              | error failure => rfl
              | ok result => exact located_ofChain ((Tree.suffix_of_ofTier read).1.trans left')
termination_by (room, 2, 0)

theorem located_ofOperand {tokens rest : List Token} {finish room : Nat}
    (left : rest <:+ tokens) :
    located tokens (Tree.ofOperand finish room rest) =
      ofOperand tokens finish room (positionOf tokens rest) := by
  unfold Tree.ofOperand ofOperand
  cases rest with
  | nil =>
      rw [eatUnary?, getElem?_positionOf left]
      dsimp only [List.head?_nil, Option.bind_none, Option.map_none]
      rw [ofPrimary, getElem?_positionOf left]
      rfl
  | cons token rest =>
      rw [eatUnary?_cons left]
      dsimp only
      cases isUnary : token.unary? with
      | none => exact located_ofPrimary left
      | some op =>
          dsimp only [Option.map_some]
          cases room with
          | zero =>
              dsimp only
              rw [place_positionOf left]
              rfl
          | succ room =>
              dsimp only
              rw [← located_ofOperand (suffix_of_cons left)]
              cases Tree.ofOperand finish room rest <;> rfl
termination_by (room, 1, 0)

theorem located_ofPrimary {tokens rest : List Token} {finish room : Nat} {token : Token}
    (left : token :: rest <:+ tokens) :
    located tokens (Tree.ofPrimary finish room token rest) =
      ofPrimary tokens finish room (positionOf tokens (token :: rest)) := by
  have left' := suffix_of_cons left
  unfold Tree.ofPrimary ofPrimary
  rw [getElem?_positionOf left, positionOf_cons left]
  dsimp only [List.head?_cons]
  cases token.kind with
  | function =>
      dsimp only
      unfold ofCall
      split
      · next value span inner =>
        have inside := suffix_of_cons left'
        rw [eat?_of_kind left' rfl]
        cases room with
        | zero => rfl
        | succ room =>
            dsimp only
            split
            · rw [eat?_of_kind inside rfl]
              exact (endCall_positionOf inside token []).symm
            · next unclosed =>
              rw [eat?_of_ne inside (kind_ne_of_not_cons unclosed)]
              dsimp only
              rw [← located_ofArguments inside]
              cases read : Tree.ofArguments finish room token inner with
              | error failure => rfl
              | ok result =>
                  rcases result with ⟨⟨arguments, stop⟩, remaining⟩
                  obtain ⟨used, close, -, rfl, -, rfl, -⟩ := Tree.ofArguments_derives read
                  have behind := (List.suffix_append used (close :: remaining)).trans inside
                  exact (endCall_positionOf behind token arguments).symm
      · next unopened =>
        rw [eat?_of_ne left' (kind_ne_of_not_cons unopened)]
        dsimp only
        rw [place_positionOf left']
        rfl
  | leftParen =>
      dsimp only
      cases room with
      | zero => rfl
      | succ room =>
          dsimp only
          rw [← located_ofTier left']
          split
          · next inner value span remaining read =>
            have inside := (Tree.suffix_of_ofTier read).1.trans left'
            rw [read]
            dsimp only [located]
            rw [eat?_of_kind inside rfl]
          · next other unclosed read =>
            rcases other with ⟨inner, remaining⟩
            have inside := (Tree.suffix_of_ofTier read).1.trans left'
            rw [read]
            dsimp only [located]
            rw [eat?_of_ne inside (kind_ne_of_not_read unclosed)]
          · next failure read =>
            rw [read]
            rfl
  | _ =>
      dsimp only
      cases Tree.literalValue _ token.value <;> rfl
termination_by (room, 0, 1)

theorem located_ofArguments {tokens rest : List Token} {finish room : Nat} {name : Token}
    (left : rest <:+ tokens) :
    located tokens
        ((Tree.ofArguments finish room name rest).map fun result => (result.1.1, result.2)) =
      ofArguments tokens finish room name (positionOf tokens rest) := by
  unfold Tree.ofArguments ofArguments
  split
  · rw [if_pos (endsArgument_of_kind left (.inl rfl)), place_positionOf left]
    rfl
  · rw [if_pos (endsArgument_of_kind left (.inr rfl)), place_positionOf left]
    rfl
  · next notComma notClosed =>
    have goesOn := endsArgument_of_ne left (kind_ne_of_not_cons notComma)
      (kind_ne_of_not_cons notClosed)
    rw [goesOn, if_neg Bool.false_ne_true, ← located_ofTier left]
    split
    · next failure read =>
      rw [read]
      rfl
    · next argument value close remaining read =>
      have behind := (Tree.suffix_of_ofTier read).1.trans left
      rw [read]
      dsimp only [located]
      rw [eat?_of_ne behind (by simp), eat?_of_kind behind rfl]
      rfl
    · next argument value span remaining read =>
      have behind := (Tree.suffix_of_ofTier read).1.trans left
      have shorter : remaining.length < rest.length :=
        Nat.lt_of_succ_lt (Tree.suffix_of_ofTier read).2
      rw [read]
      dsimp only [located]
      rw [eat?_of_kind behind rfl, if_pos shorter]
      dsimp only
      rw [length_sub_positionOf left, length_sub_positionOf (suffix_of_cons behind), if_pos shorter,
        ← located_ofArguments (suffix_of_cons behind)]
      cases Tree.ofArguments finish room name remaining <;> rfl
    · next other notClosed' notComma' read =>
      rcases other with ⟨argument, remaining⟩
      have behind := (Tree.suffix_of_ofTier read).1.trans left
      rw [read]
      dsimp only [located]
      rw [eat?_of_ne behind (kind_ne_of_not_read notComma'),
        eat?_of_ne behind (kind_ne_of_not_read notClosed')]
      rfl
termination_by (room, BinaryOp.loosest + 4, rest.length)

end

/-- Both readers agree about all tokens of a source. -/
theorem ofTokens_eq (tokens : List Token) (finish : Nat) :
    ofTokens tokens finish = (Tree.ofTokens finish tokens).mapError .failure := by
  rw [ofTokens, Tree.ofTokens]
  split
  · rfl
  · have start : positionOf tokens tokens = 0 := Nat.sub_self _
    have whole := @located_ofTier tokens tokens finish maxNesting BinaryOp.loosest List.suffix_rfl
    rw [start] at whole
    rw [← whole]
    cases read : Tree.ofTier finish maxNesting BinaryOp.loosest tokens with
    | error failure => rfl
    | ok result =>
        rcases result with ⟨tree, rest⟩
        dsimp only [located]
        rw [getElem?_positionOf (Tree.suffix_of_ofTier read).1]
        cases rest with
        | nil => rfl
        | cons token rest =>
            dsimp only [List.head?_cons]
            cases token.kind <;> rfl

/-- Both readers have the same answer to every source. -/
theorem read_eq (source : String) :
    read source = (Expression.read source).mapError .failure := by
  rw [read, Expression.read]
  cases Token.scan source with
  | error failure => rfl
  | ok tokens => exact ofTokens_eq tokens source.utf8ByteSize

end Cursor

end Vigil
