import Vigil.Proofs.Expr.Postorder
import Vigil.Proofs.Expr.Tiling
import Vigil.Proofs.Expr.Spacing

/-!
# Quoting a call

The bytes of a call, taken out of the source, are an expression of their own, and this expression
is the call.  Three things come together.  The tokens of the call derive it without the tokens
around them.  The text of these tokens is cut alike without the text around it, since it begins
where a token does and ends with a parenthesis, which nothing continues.  And tokens that stand
elsewhere derive the same tree, moved by as many bytes.

`Expression.parse_quotation` is the result.
-/

namespace Vigil

/-! ## Trees that stand elsewhere -/

namespace Tree

mutual

/-- A tree whose calls stand so many bytes further on. -/
def shift (count : Nat) : Tree → Tree
  | literal value => .literal value
  | call name arguments span =>
    .call name (shiftAll count arguments) ⟨span.start + count, span.stop + count⟩
  | unary op operand => .unary op (operand.shift count)
  | binary op left right => .binary op (left.shift count) (right.shift count)

def shiftAll (count : Nat) : List Tree → List Tree
  | [] => []
  | tree :: rest => tree.shift count :: shiftAll count rest

end

theorem shiftAll_eq_map (count : Nat) (trees : List Tree) :
    shiftAll count trees = trees.map (shift count) := by
  induction trees with
  | nil => rfl
  | cons tree rest induction => rw [shiftAll, induction, List.map_cons]

end Tree

/-- A node of a tree is its root, or it stands in one of the operands. -/
theorem Tree.at?_cases {tree node : Tree} {address : Address}
    (found : tree.at? address = some node) :
    tree = node ∨ ∃ operand ∈ tree.operands, ∃ rest, operand.at? rest = some node := by
  cases address with
  | nil => exact .inl (Option.some.inj found)
  | cons index rest =>
      obtain ⟨operand, listed, found⟩ := Option.bind_eq_some_iff.mp found
      exact .inr ⟨operand, List.mem_of_getElem? listed, rest, found⟩

/-- Tokens that stand further on derive what they derived, as much further on. -/
theorem Derives.shift {phrase : Phrase} {nesting : Nat} {tokens : List Token} {trees : List Tree}
    (derived : Derives phrase nesting tokens trees) (count : Nat) :
    Derives phrase nesting (tokens.map (Token.shift count)) (trees.map (Tree.shift count)) := by
  induction derived with
  | literal known => exact .literal known
  | parentheses opened closed inner induction =>
      rw [List.map_append, List.map_cons]
      exact .parentheses opened closed induction
  | callWithout named opened closed => exact .callWithout named opened closed
  | callWith named opened closed inner induction =>
      simp only [List.map_append, List.map_cons, List.map_nil, Tree.shift, Tree.shiftAll_eq_map]
      exact .callWith named opened closed induction
  | unary written operand induction => exact .unary written induction
  | tighter inner induction => exact .tighter induction
  | link chain written listed operand chainInduction operandInduction =>
      rw [List.map_append, List.map_cons]
      exact .link chainInduction written listed operandInduction
  | lastArgument argument induction => exact .lastArgument induction
  | argument first separated others firstInduction othersInduction =>
      rw [List.map_append, List.map_cons]
      exact .argument firstInduction separated othersInduction

theorem Token.alike_shift (count : Nat) (tokens : List Token) :
    Token.Alike (tokens.map (Token.shift count)) tokens := by
  rw [Token.Alike, List.map_map]
  rfl

/-- What tokens derive, they derive where they stand further on, and nothing else. -/
theorem DerivesWithin.unshift {levels count : Nat} {tokens : List Token} {tree : Tree}
    (derived : DerivesWithin levels (tokens.map (Token.shift count)) tree) :
    ∃ tree', tree'.shift count = tree ∧ DerivesWithin levels tokens tree' := by
  obtain ⟨links, nesting, within, there⟩ := derived
  rcases there.alike (Token.alike_shift count tokens) with ⟨trees', here, alike⟩
  obtain ⟨tree', rfl, -⟩ := Tree.allAlike_singleton.mp alike
  have moved : DerivesWithin levels (tokens.map (Token.shift count)) (tree'.shift count) :=
    ⟨links, nesting, within, here.shift count⟩
  exact ⟨tree', moved.unique ⟨links, nesting, within, there⟩, links, nesting, within, here⟩

/-! ## The tokens of a call -/

/--
Some tokens contain those of a call, which derive it on their own.  Its span goes from the first of
them to the last one, the closing parenthesis.
-/
def ContainsCall (levels : Nat) (tokens : List Token) (call : Tree) : Prop :=
  ∃ earlier first inner last later,
    tokens = earlier ++ (first :: inner ++ [last]) ++ later ∧ last.kind = .rightParen ∧
      (∃ name arguments, call = .call name arguments ⟨first.span.start, last.span.stop⟩) ∧
        ∃ nesting ≤ levels, Derives (.expression 0 0) nesting (first :: inner ++ [last]) [call]

namespace ContainsCall

variable {levels levels' : Nat} {tokens : List Token} {call : Tree}

theorem mono (contains : ContainsCall levels tokens call) (more : levels ≤ levels') :
    ContainsCall levels' tokens call := by
  obtain ⟨earlier, first, inner, last, later, whole, closed, form, nesting, within, derived⟩ :=
    contains
  exact ⟨earlier, first, inner, last, later, whole, closed, form, nesting,
    Nat.le_trans within more, derived⟩

theorem append (contains : ContainsCall levels tokens call) (before after : List Token) :
    ContainsCall levels (before ++ tokens ++ after) call := by
  obtain ⟨earlier, first, inner, last, later, rfl, closed, form, nesting, within, derived⟩ :=
    contains
  exact ⟨before ++ earlier, first, inner, last, later ++ after, by simp, closed, form, nesting,
    within, derived⟩

theorem behind (contains : ContainsCall levels tokens call) (before : List Token) :
    ContainsCall levels (before ++ tokens) call := by
  have contains := contains.append before []
  rwa [List.append_nil] at contains

end ContainsCall

/-- A call of a tree is derived by some of the tokens that derive the tree. -/
theorem Derives.containsCall {phrase : Phrase} {nesting : Nat} {tokens : List Token}
    {trees : List Tree} (derived : Derives phrase nesting tokens trees) :
    ∀ tree ∈ trees, ∀ address name arguments span,
      tree.at? address = some (.call name arguments span) →
        ContainsCall nesting tokens (.call name arguments span) := by
  induction derived with
  | literal known =>
      intro tree member address name arguments span found
      cases List.mem_singleton.mp member
      rcases Tree.at?_cases found with same | ⟨operand, member, -⟩
      · cases same
      · cases member
  | @parentheses links nesting left right tokens tree opened closed inner induction =>
      intro tree member address name arguments span found
      have contains := induction tree member address name arguments span found
      exact (contains.append [left] [right]).mono (Nat.le_succ nesting)
  | @callWithout called left right named opened closed =>
      intro tree member address name arguments span found
      cases List.mem_singleton.mp member
      rcases Tree.at?_cases found with same | ⟨operand, member, -⟩
      · cases same
        exact ⟨[], called, [left], right, [], rfl, closed, ⟨_, _, rfl⟩, 1, Nat.le_refl 1,
          .callWithout named opened closed⟩
      · cases member
  | @callWith nesting called left right tokens trees named opened closed inner induction =>
      intro tree member address name arguments span found
      cases List.mem_singleton.mp member
      rcases Tree.at?_cases found with same | ⟨operand, member, rest, inside⟩
      · cases same
        exact ⟨[], called, left :: tokens, right, [], by simp, closed, ⟨_, _, rfl⟩, nesting + 1,
          Nat.le_refl _, .callWith named opened closed inner⟩
      · have contains := induction operand member rest name arguments span inside
        exact (contains.append [called, left] [right]).mono (Nat.le_succ nesting)
  | @unary nesting token op tokens tree written operand induction =>
      intro tree member address name arguments span found
      cases List.mem_singleton.mp member
      rcases Tree.at?_cases found with same | ⟨operand, member, rest, inside⟩
      · cases same
      · have contains := induction operand member rest name arguments span inside
        exact (contains.behind [token]).mono (Nat.le_succ nesting)
  | tighter inner induction => exact induction
  | @link tier links links' nesting nesting' token op before after left right
      chain written listed further chainInduction furtherInduction =>
      intro tree member address name arguments span found
      cases List.mem_singleton.mp member
      rcases Tree.at?_cases found with same | ⟨operand, member, rest, inside⟩
      · cases same
      rcases List.mem_pair.mp member with rfl | rfl
      · have contains := chainInduction operand List.mem_cons_self rest name arguments span inside
        exact (contains.append [] (token :: after)).mono (Nat.le_max_left _ _)
      · have contains := furtherInduction operand List.mem_cons_self rest name arguments span inside
        rw [List.append_cons]
        exact (contains.behind (before ++ [token])).mono (by omega)
  | lastArgument argument induction => exact induction
  | @argument links nesting nesting' comma before after tree trees first separated others
      firstInduction othersInduction =>
      intro operand member address name arguments span found
      rcases List.mem_cons.mp member with rfl | member
      · have contains := firstInduction operand List.mem_cons_self address name arguments span found
        exact (contains.append [] (comma :: after)).mono (Nat.le_max_left _ _)
      · have contains := othersInduction operand member address name arguments span found
        rw [List.append_cons]
        exact (contains.behind (before ++ [comma])).mono (Nat.le_max_right _ _)

/-! ## The text of some tokens -/

/--
The text of some tokens, the last of which is not a name, is cut into them without the text around
it, too; they only stand so many bytes nearer to the beginning.
-/
theorem Token.Cut.exists_piece {characters : List Char} {earlier inner later : List Token}
    {first last : Token}
    (cut : Cut [] 0 characters (earlier ++ (first :: inner ++ [last]) ++ later))
    (plain : last.kind.isName = false) :
    ∃ before text after tokens,
      characters = before ++ text ++ after ∧ Text.byteLength before = first.span.start ∧
        Text.byteLength (before ++ text) = last.span.stop ∧ Cut [] 0 text tokens ∧
          tokens.map (Token.shift first.span.start) = first :: inner ++ [last] := by
  rw [List.append_assoc] at cut
  obtain ⟨before, rest, rfl, -, cut, place⟩ := cut.split_tokens
  have starts : first.span.start = 0 + Text.byteLength before := place
  rw [List.append_assoc, List.singleton_append] at cut
  obtain ⟨text, after, rfl, stops, cut, -⟩ := cut.split_behind
  have ends : ∀ token ∈ (first :: inner ++ [last]).getLast?, token.kind.before [] = token.kind := by
    intro token member
    rw [List.getLast?_concat, Option.mem_some_iff] at member
    subst member
    exact TokenKind.before_of_not_name plain []
  have nothing : ∀ next ∈ ([] : List Char).head?, Text.isBlank next = true := by simp
  rcases cut.before nothing with ⟨alone, cut, same⟩
  rw [same ends] at cut
  rcases cut.unshift with ⟨tokens, moved, cut⟩
  rw [Nat.zero_add] at starts
  refine ⟨before, text, after, tokens, by rw [List.append_assoc], starts.symm, ?_, cut, ?_⟩
  · rw [stops, Text.byteLength_append, Nat.zero_add]
  · rw [starts, moved]

/-! ## Reading the text of a call -/

/--
The bytes of a call are parsed on their own, and the tree that they give is the call, once it is
moved to where the call stands.
-/
theorem Expression.parse_quotation {source : String} {expression : Expression}
    (parsed : parse source = .ok expression) {address : Address} {name : String}
    {arguments : List Tree} {span : Span}
    (found : expression.tree.at? address = some (.call name arguments span)) :
    ∃ text node,
      span.Takes source text ∧ parse text = .ok ⟨text, node⟩ ∧
        node.shift span.start = .call name arguments span := by
  obtain ⟨tokens, links, nesting, tokenized, within, derived⟩ := derives_of_parse parsed
  obtain ⟨earlier, first, inner, last, later, rfl, closed, ⟨_, _, form⟩, depth, shallow, alone⟩ :=
    derived.containsCall _ List.mem_cons_self address name arguments span found
  cases form
  obtain ⟨before, text, after, tokens, whole, starts, stops, cut, moved⟩ :=
    (Token.tokenize_eq_ok_iff.mp tokenized).exists_piece (by rw [closed]; rfl)
  have takes : Span.Takes ⟨first.span.start, last.span.stop⟩ source (String.ofList text) := by
    refine ⟨String.ofList before, String.ofList after, ?_, ?_, ?_⟩
    · rw [← String.ofList_append, ← String.ofList_append, ← whole, String.ofList_toList]
    · rw [Text.utf8ByteSize_ofList, starts]
    · rw [← String.ofList_append, Text.utf8ByteSize_ofList, stops]
  have tokenized : Token.tokenize (String.ofList text) = .ok tokens := by
    rw [Token.tokenize_eq_ok_iff, String.toList_ofList]
    exact cut
  have whole : DerivesWithin maxNesting (first :: inner ++ [last])
      (.call name arguments ⟨first.span.start, last.span.stop⟩) :=
    ⟨0, depth, Nat.le_trans shallow within, alone.operand BinaryOp.loosest⟩
  rw [← moved] at whole
  rcases whole.unshift with ⟨node, same, derived⟩
  exact ⟨String.ofList text, node, takes, (parse_eq_ok_iff_derives tokenized).mpr derived, same⟩

end Vigil
