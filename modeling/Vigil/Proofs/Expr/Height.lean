import Mathlib.Tactic.Ring
import Vigil.Proofs.Expr.Recognition

/-!
# How high trees are

The levels of nesting bound the height of a tree, and so the depth of every recursion over it, but
not by their own number.  The links of a chain take levels only until the chain ends, while the
finished chain may be the first operand of a chain of the next tier, and the first operand of a
chain may itself use all levels.  So each tier adds its links to the height of what it starts with.

`Expression.height_of_parse` gives the height that trees of accepted texts have at most, and says
that only binary operators let it exceed the levels; `Tree.exists_height_eq` says that this height
is reached, and `Expression.height_exceeds_maxNesting` shows a text whose tree is higher than it is
nested.
-/

namespace Vigil

namespace Tree

mutual

/-- The height of a tree: the calls and operators on its longest path. -/
def height : Tree → Nat
  | literal _ => 0
  | call _ arguments _ => heightOfAll arguments + 1
  | unary _ operand => operand.height + 1
  | binary _ left right => max left.height right.height + 1

/-- The height of the highest of several trees. -/
def heightOfAll : List Tree → Nat
  | [] => 0
  | tree :: rest => max tree.height (heightOfAll rest)

end

mutual

/-- The links of chains on the path of a tree that has most of them. -/
def links : Tree → Nat
  | literal _ => 0
  | call _ arguments _ => linksOfAll arguments
  | unary _ operand => operand.links
  | binary _ left right => max left.links right.links + 1

/-- The links on such a path of several trees. -/
def linksOfAll : List Tree → Nat
  | [] => 0
  | tree :: rest => max tree.links (linksOfAll rest)

end

@[simp]
theorem linksOfAll_singleton (tree : Tree) : linksOfAll [tree] = tree.links := by
  simp [linksOfAll]

@[simp]
theorem heightOfAll_singleton (tree : Tree) : heightOfAll [tree] = tree.height := by
  simp [heightOfAll]

/-- The height that an expression of a tier can have if it is nested within some levels. -/
def maxHeight (tier : Nat) : (levels : Nat) → Nat
  | 0 => 0
  | levels + 1 => tier * (levels + 1) + 1 + maxHeight BinaryOp.loosest levels

theorem maxHeight_succ_tier (tier levels : Nat) :
    maxHeight (tier + 1) levels = maxHeight tier levels + levels := by
  cases levels with
  | zero => rfl
  | succ levels =>
      rw [maxHeight, maxHeight, Nat.succ_mul]
      omega

theorem maxHeight_zero_le (tier levels : Nat) : maxHeight 0 levels ≤ maxHeight tier levels := by
  induction tier with
  | zero => exact Nat.le_refl _
  | succ tier induction =>
      rw [maxHeight_succ_tier]
      exact Nat.le_trans induction (Nat.le_add_right _ _)

theorem maxHeight_le_succ (tier levels : Nat) :
    maxHeight tier levels ≤ maxHeight tier (levels + 1) := by
  induction levels generalizing tier with
  | zero => exact Nat.zero_le _
  | succ levels induction =>
      have inner := induction BinaryOp.loosest
      have links : tier * (levels + 1) ≤ tier * (levels + 1 + 1) :=
        Nat.mul_le_mul_left tier (Nat.le_succ _)
      rw [maxHeight, maxHeight]
      omega

theorem maxHeight_le {fewer more : Nat} (tier : Nat) (within : fewer ≤ more) :
    maxHeight tier fewer ≤ maxHeight tier more := by
  induction within with
  | refl => exact Nat.le_refl _
  | step _ induction => exact Nat.le_trans induction (maxHeight_le_succ tier _)

theorem maxHeight_loosest (levels : Nat) :
    maxHeight BinaryOp.loosest levels = levels * (3 * levels + 4) := by
  induction levels with
  | zero => rfl
  | succ levels induction =>
      rw [maxHeight, induction, BinaryOp.loosest]
      ring

end Tree

/-! ## The bound -/

/-- The height of a phrase, given how deep it is nested.  A chain adds its links to its operands. -/
def Phrase.maxHeight (phrase : Phrase) (nesting : Nat) : Nat :=
  match phrase with
  | .expression 0 _ => Tree.maxHeight 0 nesting
  | .expression (tier + 1) links => Tree.maxHeight tier nesting + links
  | .arguments => Tree.maxHeight BinaryOp.loosest nesting

/-- The links of a chain take a level each. -/
theorem Derives.links_le {phrase : Phrase} {nesting : Nat} {tokens : List Token}
    {trees : List Tree} (derived : Derives phrase nesting tokens trees)
    {tier links : Nat} (chain : phrase = .expression tier links) : links ≤ nesting := by
  cases derived with
  | lastArgument => cases chain
  | argument => cases chain
  | link =>
      cases chain
      omega
  | _ =>
      cases chain
      exact Nat.zero_le _

theorem Phrase.maxHeight_expression (tier : Nat) {links nesting : Nat} (within : links ≤ nesting) :
    (Phrase.expression tier links).maxHeight nesting ≤ Tree.maxHeight tier nesting := by
  cases tier with
  | zero => exact Nat.le_refl _
  | succ tier =>
      rw [Tree.maxHeight_succ_tier]
      exact Nat.add_le_add_left within _

theorem Derives.heightOfAll_le {phrase : Phrase} {nesting : Nat} {tokens : List Token}
    {trees : List Tree} (derived : Derives phrase nesting tokens trees) :
    Tree.heightOfAll trees ≤ phrase.maxHeight nesting := by
  induction derived with
  | literal known =>
      rw [Tree.heightOfAll_singleton]
      exact Nat.zero_le _
  | parentheses opened closed inner induction =>
      have enclosed := Phrase.maxHeight_expression BinaryOp.loosest (inner.links_le rfl)
      rw [Phrase.maxHeight, Tree.maxHeight]
      omega
  | callWithout named opened closed =>
      rw [Tree.heightOfAll_singleton, Tree.height]
      exact Nat.le_refl _
  | callWith named opened closed inner induction =>
      rw [Tree.heightOfAll_singleton, Tree.height, Phrase.maxHeight, Tree.maxHeight]
      rw [Phrase.maxHeight] at induction
      omega
  | @unary nesting token op tokens tree written operand induction =>
      have enclosed := Tree.maxHeight_zero_le BinaryOp.loosest nesting
      rw [Tree.heightOfAll_singleton, Phrase.maxHeight] at induction
      rw [Tree.heightOfAll_singleton, Tree.height, Phrase.maxHeight, Tree.maxHeight]
      omega
  | tighter inner induction =>
      exact Nat.le_trans induction (Phrase.maxHeight_expression _ (inner.links_le rfl))
  | @link tier links links' nesting nesting' token op before after left right
      chain written listed operand chainInduction operandInduction =>
      have first := Tree.maxHeight_le tier (Nat.le_max_left nesting (links + 1 + nesting'))
      have later : nesting' ≤ max nesting (links + 1 + nesting') := by omega
      have second := Tree.maxHeight_le tier later
      have enclosed := Phrase.maxHeight_expression tier (operand.links_le rfl)
      rw [Tree.heightOfAll_singleton] at chainInduction operandInduction
      rw [Phrase.maxHeight] at chainInduction
      rw [Tree.heightOfAll_singleton, Tree.height, Phrase.maxHeight]
      omega
  | lastArgument argument induction =>
      exact Nat.le_trans induction (Phrase.maxHeight_expression _ (argument.links_le rfl))
  | @argument links nesting nesting' comma before after tree trees first separated others
      firstInduction othersInduction =>
      have enclosed := Phrase.maxHeight_expression BinaryOp.loosest (first.links_le rfl)
      have one := Tree.maxHeight_le BinaryOp.loosest (Nat.le_max_left nesting nesting')
      have rest := Tree.maxHeight_le BinaryOp.loosest (Nat.le_max_right nesting nesting')
      rw [Tree.heightOfAll_singleton] at firstInduction
      rw [Phrase.maxHeight] at othersInduction
      rw [Tree.heightOfAll, Phrase.maxHeight]
      omega

/-- Whatever is no link of a chain takes a level. -/
theorem Derives.heightOfAll_le_add_links {phrase : Phrase} {nesting : Nat} {tokens : List Token}
    {trees : List Tree} (derived : Derives phrase nesting tokens trees) :
    Tree.heightOfAll trees ≤ nesting + Tree.linksOfAll trees := by
  induction derived with
  | literal known =>
      rw [Tree.heightOfAll_singleton, Tree.height]
      exact Nat.zero_le _
  | parentheses opened closed inner induction => omega
  | callWithout named opened closed =>
      rw [Tree.heightOfAll_singleton, Tree.height, Tree.heightOfAll]
      exact Nat.le_add_right _ _
  | callWith named opened closed inner induction =>
      rw [Tree.heightOfAll_singleton, Tree.linksOfAll_singleton, Tree.height, Tree.links]
      omega
  | unary written operand induction =>
      rw [Tree.heightOfAll_singleton, Tree.linksOfAll_singleton] at induction ⊢
      rw [Tree.height, Tree.links]
      omega
  | tighter inner induction => exact induction
  | link chain written listed operand chainInduction operandInduction =>
      rw [Tree.heightOfAll_singleton, Tree.linksOfAll_singleton]
        at chainInduction operandInduction ⊢
      rw [Tree.height, Tree.links]
      omega
  | lastArgument argument induction => exact induction
  | argument first separated others firstInduction othersInduction =>
      rw [Tree.heightOfAll_singleton, Tree.linksOfAll_singleton] at firstInduction
      rw [Tree.heightOfAll, Tree.linksOfAll]
      omega

theorem DerivesWithin.height_le_add_links {levels : Nat} {tokens : List Token} {tree : Tree}
    (derived : DerivesWithin levels tokens tree) : tree.height ≤ levels + tree.links := by
  rcases derived with ⟨links, nesting, within, derived⟩
  have height := derived.heightOfAll_le_add_links
  rw [Tree.heightOfAll_singleton, Tree.linksOfAll_singleton] at height
  exact Nat.le_trans height (Nat.add_le_add_right within _)

theorem DerivesWithin.height_le {levels : Nat} {tokens : List Token} {tree : Tree}
    (derived : DerivesWithin levels tokens tree) :
    tree.height ≤ Tree.maxHeight BinaryOp.loosest levels := by
  rcases derived with ⟨links, nesting, within, derived⟩
  have height := derived.heightOfAll_le
  rw [Tree.heightOfAll_singleton] at height
  have nested := Phrase.maxHeight_expression BinaryOp.loosest (derived.links_le rfl)
  exact Nat.le_trans (Nat.le_trans height nested) (Tree.maxHeight_le _ within)

/-! ## The bound is reached -/

/-- Some expression of a tier is nested as deep as given and has a tree of the given height. -/
def Attained (tier levels height : Nat) : Prop :=
  ∃ links tokens tree, Derives (.expression tier links) levels tokens [tree] ∧ tree.height = height

theorem literalValue_true : Tree.literalValue .boolean "true" = .ok (.boolean true) := by
  rfl

/-- A literal, which is an expression of every tier and not nested. -/
theorem derives_true (place : Span) (tier : Nat) :
    Derives (.expression tier 0) 0 [⟨.boolean, "true", place⟩] [.literal (.boolean true)] := by
  induction tier with
  | zero => exact .literal literalValue_true
  | succ tier induction => exact induction.tighter

namespace Attained

theorem literal : Attained BinaryOp.loosest 0 0 :=
  ⟨_, _, _, derives_true ⟨0, 0⟩ BinaryOp.loosest, by rw [Tree.height]⟩

theorem call {levels height : Nat} (argument : Attained BinaryOp.loosest levels height) :
    Attained 0 (levels + 1) (height + 1) := by
  rcases argument with ⟨links, tokens, tree, derived, rfl⟩
  let name : Token := ⟨.function, "f", ⟨0, 0⟩⟩
  let left : Token := ⟨.leftParen, "(", ⟨0, 0⟩⟩
  let right : Token := ⟨.rightParen, ")", ⟨0, 0⟩⟩
  have called := @Derives.callWith levels name left right _ _ rfl rfl rfl derived.lastArgument
  refine ⟨_, _, _, called, ?_⟩
  rw [Tree.height, Tree.heightOfAll_singleton]

/-- A chain may have as many links as its first operand takes levels. -/
theorem chain {tier levels height : Nat} (first : Attained tier levels height) {op : BinaryOp}
    (listed : op.tier = tier + 1) (count : Nat) (within : count ≤ levels) :
    ∃ tokens tree,
      Derives (.expression (tier + 1) count) levels tokens [tree] ∧
        tree.height = height + count := by
  induction count with
  | zero =>
      rcases first with ⟨links, tokens, tree, derived, rfl⟩
      exact ⟨tokens, tree, derived.tighter, rfl⟩
  | succ count induction =>
      rcases induction (Nat.le_of_succ_le within) with ⟨tokens, tree, derived, reached⟩
      let token : Token := ⟨.operator op.operator, "", ⟨0, 0⟩⟩
      have linked := @Derives.link tier count 0 levels 0 token op _ _ _ _
        derived rfl listed (derives_true ⟨0, 0⟩ tier)
      rw [Nat.add_zero, Nat.max_eq_left within] at linked
      refine ⟨_, _, linked, ?_⟩
      rw [Tree.height, Tree.height, reached]
      omega

theorem next {tier levels height : Nat} (first : Attained tier levels height) (op : BinaryOp)
    (listed : op.tier = tier + 1) : Attained (tier + 1) levels (height + levels) := by
  rcases first.chain listed levels (Nat.le_refl levels) with ⟨tokens, tree, derived, reached⟩
  exact ⟨levels, tokens, tree, derived, reached⟩

theorem maxHeight (levels : Nat) :
    Attained BinaryOp.loosest levels (Tree.maxHeight BinaryOp.loosest levels) := by
  induction levels with
  | zero => exact literal
  | succ levels induction =>
      have factors := induction.call.next .mul rfl
      have terms := factors.next .add rfl
      have orders := terms.next .lt rfl
      have equalities := orders.next .eq rfl
      have conjunctions := equalities.next .and rfl
      have disjunctions := conjunctions.next .or rfl
      have total :
          Tree.maxHeight BinaryOp.loosest levels + 1 + (levels + 1) + (levels + 1) + (levels + 1) +
              (levels + 1) + (levels + 1) + (levels + 1) =
            Tree.maxHeight BinaryOp.loosest (levels + 1) := by
        rw [Tree.maxHeight, BinaryOp.loosest]
        omega
      rw [← total]
      exact disjunctions

end Attained

/-- The bound cannot be lowered: there are tokens whose tree is as high as it allows. -/
theorem Tree.exists_height_eq (finish : Nat) :
    ∃ tokens tree,
      ofTokens finish tokens = .ok tree ∧ tree.height = maxNesting * (3 * maxNesting + 4) := by
  rcases Attained.maxHeight maxNesting with ⟨links, tokens, tree, derived, reached⟩
  rw [Tree.maxHeight_loosest] at reached
  refine ⟨tokens, tree, ?_, reached⟩
  exact Tree.ofTokens_eq_ok_iff.mpr ⟨links, maxNesting, Nat.le_refl _, derived⟩

/-! ## Texts -/

/--
The tree of a text that is parsed has a bounded height, but the bound is more than the levels that
an expression may take.  The tree exceeds these levels by no more than the links of chains on one of
its paths, so without binary operators it keeps to them.
-/
theorem Expression.height_of_parse {source : String} {expression : Expression}
    (parsed : Expression.parse source = .ok expression) :
    expression.tree.height ≤ maxNesting * (3 * maxNesting + 4) ∧
      expression.tree.height ≤ maxNesting + expression.tree.links := by
  rcases Expression.derives_of_read (Expression.read_of_parse parsed) with
    ⟨tokens, links, nesting, -, nested, derived⟩
  have within : DerivesWithin maxNesting tokens expression.tree := ⟨links, nesting, nested, derived⟩
  constructor
  · have height := within.height_le
    rw [Tree.maxHeight_loosest] at height
    exact height
  · exact within.height_le_add_links

theorem Expression.height_of_parse_negated :
    ∃ expression,
      Expression.parse "!true" = .ok expression ∧
        expression.tree.height = 1 ∧
        expression.tree.height ≤ maxNesting * (3 * maxNesting + 4) ∧
        expression.tree.height ≤ maxNesting + expression.tree.links := by
  have tokenized :
      Token.tokenize "!true" =
        .ok (⟨.operator .not, "!", ⟨0, 1⟩⟩ :: [⟨.boolean, "true", ⟨1, 5⟩⟩]) :=
    eq_ok_of_toOption (by decide +kernel)
  have negated : Derives (.expression 0 0) 1 (⟨.operator .not, "!", ⟨0, 1⟩⟩ :: _) _ :=
    @Derives.unary 0 _ .not _ _ rfl (derives_true ⟨1, 5⟩ 0)
  have within : DerivesWithin maxNesting _ (.unary .not (.literal (.boolean true))) :=
    ⟨0, 1, by decide, negated.tighter.tighter.tighter.tighter.tighter.tighter⟩
  have parsed := (Expression.parse_eq_ok_iff_derives tokenized).mpr within
  refine ⟨_, parsed, ?_, Expression.height_of_parse parsed⟩
  rw [Tree.height, Tree.height]

/-- Operators in front of an operand take a level and add to the height, each of them. -/
theorem Derives.unaries {op : UnaryOp} {written : List Token}
    (each : ∀ token ∈ written, token.kind = .operator op.operator)
    {nesting : Nat} {tokens : List Token} {tree : Tree}
    (operand : Derives (.expression 0 0) nesting tokens [tree]) :
    ∃ higher : Tree,
      Derives (.expression 0 0) (nesting + written.length) (written ++ tokens) [higher] ∧
        higher.height = tree.height + written.length := by
  induction written with
  | nil => exact ⟨tree, operand, rfl⟩
  | cons token rest induction =>
      rcases induction fun other member => each other (List.mem_cons_of_mem token member) with
        ⟨higher, derived, reached⟩
      refine ⟨.unary op higher, derived.unary (each token List.mem_cons_self), ?_⟩
      rw [Tree.height, reached, List.length_cons, Nat.add_assoc]

/-- As many negations as an expression may take levels, and then a comparison. -/
def tallSource : String :=
  String.ofList (List.replicate maxNesting '!' ++ "true=true".toList)

/-- The tree of a text may be higher than the levels that an expression may take. -/
theorem Expression.height_exceeds_maxNesting :
    ∃ expression,
      Expression.parse tallSource = .ok expression ∧
        expression.tree.height = maxNesting + 1 := by
  let negations : List Token :=
    (List.range maxNesting).map fun place => ⟨.operator .not, "!", ⟨place, place + 1⟩⟩
  have tokenized :
      Token.tokenize tallSource =
        .ok
          ((negations ++ [⟨.boolean, "true", ⟨100, 104⟩⟩]) ++
            ⟨.operator .eq, "=", ⟨104, 105⟩⟩ :: [⟨.boolean, "true", ⟨105, 109⟩⟩]) :=
    eq_ok_of_toOption (by decide +kernel)
  have written : ∀ token ∈ negations, token.kind = .operator UnaryOp.not.operator := by
    intro token member
    rcases List.mem_map.mp member with ⟨place, -, rfl⟩
    rfl
  rcases Derives.unaries written (derives_true ⟨100, 104⟩ 0) with ⟨negated, derived, reached⟩
  have count : negations.length = maxNesting := by rw [List.length_map, List.length_range]
  rw [count, Nat.zero_add] at derived
  -- The comparison takes the first level again: the levels of the negations are given back.
  have compared := @Derives.link 3 0 0 maxNesting 0 ⟨.operator .eq, "=", ⟨104, 105⟩⟩ .eq _ _ _ _
    derived.tighter.tighter.tighter.tighter rfl rfl (derives_true ⟨105, 109⟩ 3)
  have within : DerivesWithin maxNesting _ (.binary .eq negated (.literal (.boolean true))) :=
    ⟨0, _, by decide, compared.tighter.tighter⟩
  refine ⟨⟨tallSource, _⟩, (Expression.parse_eq_ok_iff_derives tokenized).mpr within, ?_⟩
  rw [Tree.height, reached, Tree.height, count, Nat.zero_add, Nat.max_eq_left (Nat.zero_le _)]

end Vigil
