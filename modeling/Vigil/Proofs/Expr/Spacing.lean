import Mathlib.Logic.Relation
import Vigil.Expr.Evaluate
import Vigil.Proofs.Expr.Cut
import Vigil.Proofs.Expr.Draft

/-!
# Blanks between tokens

Blanks may be put into a source wherever no token goes on, as many as one likes and in as many
places.  The tokens stay the same, places apart, since a token ends before a blank where it ended
before, and a name looks past the blanks for its parenthesis.  Tokens that are the same derive the
same tree, spans apart, and a tree is evaluated without regard to spans.

`blanks_are_insignificant` puts the three together.
-/

namespace Vigil

/-! ## Tokens in other places -/

namespace Token

/-- Tokens of the same kinds and values, one for one. -/
def Alike (tokens tokens' : List Token) : Prop :=
  tokens'.map inscription = tokens.map inscription

theorem inscription_eq_iff {first second : Token} :
    first.inscription = second.inscription ↔
      first.kind = second.kind ∧ first.value = second.value := by
  simp [inscription, String.toList_inj]

namespace Alike

variable {token : Token} {tokens' first second rest : List Token}

theorem cons_iff :
    Alike (token :: rest) tokens' ↔
      ∃ token' rest',
        tokens' = token' :: rest' ∧ token'.kind = token.kind ∧ token'.value = token.value ∧
          Alike rest rest' := by
  simp [Alike, List.map_eq_cons_iff, inscription_eq_iff, and_assoc]

theorem singleton_iff :
    Alike [token] tokens' ↔
      ∃ token', tokens' = [token'] ∧ token'.kind = token.kind ∧ token'.value = token.value := by
  simp [Alike, List.map_eq_singleton_iff, inscription_eq_iff]

theorem append_iff :
    Alike (first ++ second) tokens' ↔
      ∃ first' second',
        tokens' = first' ++ second' ∧ Alike first first' ∧ Alike second second' := by
  simp [Alike, List.map_eq_append_iff]

end Alike

end Token

/-! ## Putting blanks in -/

/-- Blanks are put into a source in a place where it has tokens on either side, but none across. -/
inductive Widened : String → String → Prop where
  | insert {before blanks after : String} {tokens : List Token}
      (tokenized : Token.tokenize (before ++ after) = .ok tokens)
      (between : ∀ token ∈ tokens,
        token.span.stop ≤ before.utf8ByteSize ∨ before.utf8ByteSize ≤ token.span.start)
      (isBlank : ∀ character ∈ blanks.toList, Text.isBlank character = true) :
      Widened (before ++ after) (before ++ blanks ++ after)

namespace Token

namespace Cut

variable {following characters first second blanks : List Char} {offset : Nat}
variable {tokens : List Token}
variable (isBlank : ∀ character ∈ blanks, Text.isBlank character = true)
include isBlank

/-- A text is cut alike whatever blanks come between it and what follows. -/
theorem before_blanks (cut : Cut following offset characters tokens) :
    Cut (blanks ++ following) offset characters tokens := by
  have opened : Text.opens (blanks ++ following) = Text.opens following := by
    have nothing : Cut following 0 blanks [] := of_blanks isBlank
    exact nothing.opens_append following
  cases blanks with
  | nil => exact cut
  | cons head rest =>
      refine cut.before_alike ?_ opened
      intro next member
      cases member
      exact isBlank head List.mem_cons_self

theorem insert (cut : Cut following offset (first ++ second) tokens)
    (between : ∀ token ∈ tokens,
      token.span.stop ≤ offset + Text.byteLength first ∨
        offset + Text.byteLength first ≤ token.span.start) :
    ∃ tokens',
      Cut following offset (first ++ (blanks ++ second)) tokens' ∧ Alike tokens tokens' := by
  obtain ⟨earlier, later, rfl, left, right⟩ := cut.split between
  have left' := left.before_blanks isBlank
  rw [← List.append_assoc] at left'
  have right' := (of_blanks isBlank).append (right.shift (Text.byteLength blanks))
  refine ⟨_, left'.append right', ?_⟩
  rw [Alike, List.nil_append, List.map_append, List.map_append, List.map_map]
  rfl

end Cut

/-- Tokens keep their kinds and values where blanks are put in. -/
theorem tokenize_widened {source widened : String} {tokens : List Token}
    (tokenized : tokenize source = .ok tokens) (wider : Widened source widened) :
    ∃ tokens', tokenize widened = .ok tokens' ∧ Alike tokens tokens' := by
  cases wider with
  | @insert before blanks after others tokenized' between isBlank =>
      rw [tokenized] at tokenized'
      cases tokenized'
      simp only [tokenize_eq_ok_iff, String.toList_append, List.append_assoc] at tokenized ⊢
      apply tokenized.insert isBlank
      intro token member
      rw [Nat.zero_add, Text.byteLength_toList]
      exact between token member

end Token

/-! ## The same trees -/

namespace Tree

theorem withoutSpansOfAll_eq_map (trees : List Tree) :
    withoutSpansOfAll trees = trees.map withoutSpans := by
  induction trees with
  | nil => rfl
  | cons tree rest induction => rw [withoutSpansOfAll, induction, List.map_cons]

/-- Trees that are the same, spans apart. -/
def Alike (tree tree' : Tree) : Prop :=
  tree'.withoutSpans = tree.withoutSpans

/-- Trees that are the same one for one, spans apart. -/
def AllAlike (trees trees' : List Tree) : Prop :=
  trees'.map withoutSpans = trees.map withoutSpans

theorem allAlike_singleton {tree : Tree} {trees' : List Tree} :
    AllAlike [tree] trees' ↔ ∃ tree', trees' = [tree'] ∧ Alike tree tree' := by
  simp [AllAlike, Alike, List.map_eq_singleton_iff]

theorem Alike.all {tree tree' : Tree} (alike : Alike tree tree') : AllAlike [tree] [tree'] :=
  allAlike_singleton.mpr ⟨tree', rfl, alike⟩

theorem AllAlike.call {trees trees' : List Tree} (alike : AllAlike trees trees') (name : String)
    (span span' : Span) : AllAlike [.call name trees span] [.call name trees' span'] := by
  apply Alike.all
  rw [Alike, withoutSpans, withoutSpans, withoutSpansOfAll_eq_map, withoutSpansOfAll_eq_map, alike]

end Tree

/-- Tokens in other places derive the same trees in the same way, spans apart. -/
theorem Derives.alike {phrase : Phrase} {nesting : Nat} {tokens tokens' : List Token}
    {trees : List Tree} (derived : Derives phrase nesting tokens trees)
    (same : Token.Alike tokens tokens') :
    ∃ trees', Derives phrase nesting tokens' trees' ∧ Tree.AllAlike trees trees' := by
  induction derived generalizing tokens' with
  | @literal token value known =>
      obtain ⟨token', rfl, kind, content⟩ := Token.Alike.singleton_iff.mp same
      rw [← kind, ← content] at known
      exact ⟨_, .literal known, rfl⟩
  | parentheses opened closed inner induction =>
      rw [List.cons_append] at same
      obtain ⟨left', rest, rfl, kind, -, others⟩ := Token.Alike.cons_iff.mp same
      obtain ⟨tokens', last, rfl, same', ending⟩ := Token.Alike.append_iff.mp others
      obtain ⟨right', rfl, kind', -⟩ := Token.Alike.singleton_iff.mp ending
      rcases induction same' with ⟨trees', derived, alike⟩
      obtain ⟨tree', rfl, -⟩ := Tree.allAlike_singleton.mp alike
      exact ⟨[tree'], derived.parentheses (kind.trans opened) (kind'.trans closed), alike⟩
  | callWithout named opened closed =>
      obtain ⟨name', rest, rfl, kind, content, others⟩ := Token.Alike.cons_iff.mp same
      obtain ⟨left', rest, rfl, kind', -, others⟩ := Token.Alike.cons_iff.mp others
      obtain ⟨right', rfl, kind'', -⟩ := Token.Alike.singleton_iff.mp others
      refine ⟨_, .callWithout (kind.trans named) (kind'.trans opened) (kind''.trans closed), ?_⟩
      rw [content]
      exact Tree.AllAlike.call rfl _ _ _
  | callWith named opened closed inner induction =>
      rw [List.cons_append, List.cons_append] at same
      obtain ⟨name', rest, rfl, kind, content, others⟩ := Token.Alike.cons_iff.mp same
      obtain ⟨left', rest, rfl, kind', -, others⟩ := Token.Alike.cons_iff.mp others
      obtain ⟨tokens', last, rfl, same', ending⟩ := Token.Alike.append_iff.mp others
      obtain ⟨right', rfl, kind'', -⟩ := Token.Alike.singleton_iff.mp ending
      rcases induction same' with ⟨trees', derived, alike⟩
      refine ⟨_, derived.callWith (kind.trans named) (kind'.trans opened) (kind''.trans closed), ?_⟩
      rw [content]
      exact alike.call _ _ _
  | unary written operand induction =>
      obtain ⟨token', rest, rfl, kind, -, same'⟩ := Token.Alike.cons_iff.mp same
      rcases induction same' with ⟨trees', derived, alike⟩
      obtain ⟨tree', rfl, one⟩ := Tree.allAlike_singleton.mp alike
      exact ⟨_, derived.unary (kind.trans written), Tree.Alike.all (congrArg (Tree.unary _) one)⟩
  | tighter inner induction =>
      rcases induction same with ⟨trees', derived, alike⟩
      obtain ⟨tree', rfl, -⟩ := Tree.allAlike_singleton.mp alike
      exact ⟨_, derived.tighter, alike⟩
  | link chain written listed operand chainInduction operandInduction =>
      obtain ⟨before', rest, rfl, same', others⟩ := Token.Alike.append_iff.mp same
      obtain ⟨token', after', rfl, kind, -, same''⟩ := Token.Alike.cons_iff.mp others
      rcases chainInduction same' with ⟨trees', derived, alike⟩
      obtain ⟨left', rfl, one⟩ := Tree.allAlike_singleton.mp alike
      rcases operandInduction same'' with ⟨trees', derived', alike'⟩
      obtain ⟨right', rfl, other⟩ := Tree.allAlike_singleton.mp alike'
      exact ⟨_, derived.link (kind.trans written) listed derived',
        Tree.Alike.all (congrArg₂ (Tree.binary _) one other)⟩
  | lastArgument argument induction =>
      rcases induction same with ⟨trees', derived, alike⟩
      obtain ⟨tree', rfl, -⟩ := Tree.allAlike_singleton.mp alike
      exact ⟨_, derived.lastArgument, alike⟩
  | argument first separated others firstInduction othersInduction =>
      obtain ⟨before', rest, rfl, same', more⟩ := Token.Alike.append_iff.mp same
      obtain ⟨comma', after', rfl, kind, -, same''⟩ := Token.Alike.cons_iff.mp more
      rcases firstInduction same' with ⟨trees', derived, alike⟩
      obtain ⟨tree', rfl, one⟩ := Tree.allAlike_singleton.mp alike
      rcases othersInduction same'' with ⟨trees', derived', alike'⟩
      exact ⟨_, derived.argument (kind.trans separated) derived',
        congrArg₂ List.cons one alike'⟩

/-! ## Evaluation -/

variable {m : Type → Type} [Monad m] {Code : Type}

/-- A tree is evaluated without regard to its spans. -/
theorem Tree.evaluate_withoutSpans (environment : Environment m Code) (tree : Tree) :
    tree.withoutSpans.evaluate environment = tree.evaluate environment := by
  induction tree with
  | literal value => rfl
  | call name arguments span each =>
      have same : evaluateAll environment (withoutSpansOfAll arguments) =
          evaluateAll environment arguments := by
        clear span
        induction arguments with
        | nil => rfl
        | cons first rest induction =>
            rw [List.forall_mem_cons] at each
            rw [withoutSpansOfAll, evaluateAll, each.1, induction each.2, evaluateAll]
      rw [withoutSpans, evaluate, same, withoutSpansOfAll_eq_map, List.length_map, evaluate]
  | unary op operand induction => rw [withoutSpans, evaluate, induction, evaluate]
  | binary op left right leftInduction rightInduction =>
      cases op <;> rw [withoutSpans] <;> simp only [evaluate, leftInduction, rightInduction]

theorem Tree.Alike.evaluate {tree tree' : Tree} (alike : Alike tree tree')
    (environment : Environment m Code) :
    tree'.evaluate environment = tree.evaluate environment := by
  rw [← evaluate_withoutSpans environment tree', alike, evaluate_withoutSpans]

/-! ## Sources with blanks put in -/

/-- Tokens in other places are parsed alike. -/
theorem Expression.parse_alike {source source' : String} {tokens tokens' : List Token}
    (tokenized : Token.tokenize source = .ok tokens)
    (tokenized' : Token.tokenize source' = .ok tokens') (same : Token.Alike tokens tokens')
    {expression : Expression} (parsed : parse source = .ok expression) :
    ∃ expression', parse source' = .ok expression' ∧ expression.tree.Alike expression'.tree := by
  have read := read_of_parse parsed
  rw [read_eq_of_tokenize tokenized, Tree.ofTokens_eq_ok_iff] at read
  rcases read with ⟨links, nesting, within, derived⟩
  rcases derived.alike same with ⟨trees', derived', alike⟩
  obtain ⟨tree', rfl, one⟩ := Tree.allAlike_singleton.mp alike
  exact ⟨⟨source', tree'⟩,
    (parse_eq_ok_iff_derives tokenized').mpr ⟨links, nesting, within, derived'⟩, one⟩

theorem Token.tokenize_spaced {source spaced : String} {tokens : List Token}
    (tokenized : tokenize source = .ok tokens)
    (spaces : Relation.ReflTransGen Widened source spaced) :
    ∃ tokens', tokenize spaced = .ok tokens' ∧ Alike tokens tokens' := by
  induction spaces with
  | refl => exact ⟨tokens, tokenized, rfl⟩
  | tail _ wider induction =>
      rcases induction with ⟨between, tokenized', same⟩
      rcases tokenize_widened tokenized' wider with ⟨tokens', tokenized'', same'⟩
      exact ⟨tokens', tokenized'', same'.trans same⟩

/--
Blanks that are put between the tokens of a source, before them or after them leave the kinds and
values of the tokens as they are.  The source is an expression with them exactly if it is one
without, the trees are the same, spans apart, and whatever functions there are, the trees have the
same value.
-/
theorem blanks_are_insignificant {source spaced : String} {tokens : List Token}
    (tokenized : Token.tokenize source = .ok tokens)
    (spaces : Relation.ReflTransGen Widened source spaced) :
    (∃ tokens', Token.tokenize spaced = .ok tokens' ∧ Token.Alike tokens tokens') ∧
    ((∃ expression, Expression.parse source = .ok expression) ↔
      ∃ expression, Expression.parse spaced = .ok expression) ∧
    ∀ expression expression',
      Expression.parse source = .ok expression → Expression.parse spaced = .ok expression' →
        expression'.tree.withoutSpans = expression.tree.withoutSpans ∧
        ∀ {m : Type → Type} [Monad m] {Code : Type} (environment : Environment m Code),
          expression'.tree.evaluate environment = expression.tree.evaluate environment := by
  rcases Token.tokenize_spaced tokenized spaces with ⟨tokens', tokenized', same⟩
  refine ⟨⟨tokens', tokenized', same⟩, ⟨?_, ?_⟩, ?_⟩
  · rintro ⟨expression, parsed⟩
    rcases Expression.parse_alike tokenized tokenized' same parsed with ⟨expression', parsed', -⟩
    exact ⟨expression', parsed'⟩
  · rintro ⟨expression', parsed'⟩
    have back : Token.Alike tokens' tokens := same.symm
    rcases Expression.parse_alike tokenized' tokenized back parsed' with ⟨expression, parsed, -⟩
    exact ⟨expression, parsed⟩
  · intro expression expression' parsed parsed'
    obtain ⟨other, parsed'', alike⟩ := Expression.parse_alike tokenized tokenized' same parsed
    rw [parsed'] at parsed''
    cases parsed''
    exact ⟨alike, fun environment => alike.evaluate environment⟩

/-- A call with blanks before its parenthesis, one of them outside the seven-bit characters. -/
theorem blanks_are_insignificant_called :
    ∃ expression expression',
      Expression.parse ("f" ++ "()") = .ok expression ∧
        Expression.parse ("f" ++ " \u2003\n" ++ "()") = .ok expression' ∧
          expression'.tree.withoutSpans = expression.tree.withoutSpans := by
  have tokenized :
      Token.tokenize ("f" ++ "()") =
        .ok
          [⟨.function, "f", ⟨0, 1⟩⟩, ⟨.leftParen, "(", ⟨1, 2⟩⟩, ⟨.rightParen, ")", ⟨2, 3⟩⟩] :=
    eq_ok_of_toOption (by decide +kernel)
  have wider : Widened ("f" ++ "()") ("f" ++ " \u2003\n" ++ "()") :=
    .insert tokenized (by decide +kernel) (List.all_eq_true.mp (by decide +kernel))
  obtain ⟨-, both, alike⟩ := blanks_are_insignificant tokenized (.single wider)
  have parsed : Expression.parse ("f" ++ "()") = .ok ⟨_, .call "f" [] ⟨0, 3⟩⟩ :=
    (Expression.parse_eq_ok_iff_derives tokenized).mpr
      ⟨0, 1, by decide, (Derives.callWithout rfl rfl rfl).operand _⟩
  rcases both.mp ⟨_, parsed⟩ with ⟨expression', parsed'⟩
  exact ⟨_, expression', parsed, parsed', (alike _ _ parsed parsed').1⟩

end Vigil
