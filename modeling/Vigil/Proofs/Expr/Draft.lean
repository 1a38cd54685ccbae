import Vigil.Proofs.Expr.Excess
import Vigil.Proofs.Expr.Scanning

/-!
# Writing trees

A draft is a tree with its literals spelled.  It is written with the symbols of the operators, and
with parentheses only around a chain of operators that stands where its tier is not admitted: the
left operand of an operator admits its tier, the right operand the tiers below, and a unary
operator none.

`parse_undoes_writing` is the round trip.  Whatever blanks are put between the lexemes of a draft,
the text is parsed to the tree of the draft, unless it is nested too deeply; then it is refused for
this reason.
-/

namespace Vigil

/-! ## Trees without places -/

namespace Tree

mutual

/-- A tree whose calls have forgotten where they were read. -/
def withoutSpans : Tree → Tree
  | literal value => .literal value
  | call name arguments _ => .call name (withoutSpansOfAll arguments) ⟨0, 0⟩
  | unary op operand => .unary op operand.withoutSpans
  | binary op left right => .binary op left.withoutSpans right.withoutSpans

def withoutSpansOfAll : List Tree → List Tree
  | [] => []
  | tree :: rest => tree.withoutSpans :: withoutSpansOfAll rest

end

/-- A tree whose literals and names can be written. -/
inductive Writable : Tree → Prop where
  | boolean (truth : Bool) : Writable (.literal (.boolean truth))
  | number (numeral : Numeral) : Writable (.literal (.number numeral.number))
  | text (content : String) : Writable (.literal (.text content))
  | call {name : String} {arguments : List Tree} {span : Span}
      (valid : Name.isIdentifier name = true)
      (each : ∀ argument ∈ arguments, Writable argument) :
      Writable (.call name arguments span)
  | unary {op : UnaryOp} {operand : Tree} (inner : Writable operand) : Writable (.unary op operand)
  | binary {op : BinaryOp} {left right : Tree}
      (first : Writable left) (second : Writable right) :
      Writable (.binary op left right)

end Tree

/-! ## Drafts -/

/-- A tree with its literals spelled. -/
inductive Draft where
  | literal (written : Literal)
  | call (function : Identifier) (arguments : List Draft)
  | unary (op : UnaryOp) (operand : Draft)
  | binary (op : BinaryOp) (left right : Draft)

namespace Draft

mutual

/-- The tree that a draft is a draft of. -/
def tree : Draft → Tree
  | literal written => .literal written.value
  | call function arguments => .call function.name (treesOfAll arguments) ⟨0, 0⟩
  | unary op operand => .unary op operand.tree
  | binary op left right => .binary op left.tree right.tree

def treesOfAll : List Draft → List Tree
  | [] => []
  | draft :: rest => draft.tree :: treesOfAll rest

end

def enclosed (lexemes : List Lexeme) : List Lexeme :=
  .leftParen :: lexemes ++ [.rightParen]

mutual

/-- How a draft is written where the operators up to some tier are admitted. -/
def lexemes : Draft → (limit : Nat) → List Lexeme
  | literal written, _ => [.literal written]
  | call function arguments, _ => .function function :: enclosed (lexemesOfAll arguments)
  | unary op operand, _ => .operator op.operator :: operand.lexemes 0
  | binary op left right, limit =>
    let chain := left.lexemes op.tier ++ .operator op.operator :: right.lexemes (op.tier - 1)
    if op.tier ≤ limit then chain else enclosed chain

/-- Arguments with commas between them. -/
def lexemesOfAll : List Draft → List Lexeme
  | [] => []
  | [last] => last.lexemes BinaryOp.loosest
  | draft :: next :: rest =>
    draft.lexemes BinaryOp.loosest ++ .comma :: lexemesOfAll (next :: rest)

end

/-- The links of the chain of some tier that a draft is. -/
def links : Draft → (tier : Nat) → Nat
  | binary op left _, tier => if op.tier = tier then left.links tier + 1 else 0
  | _, _ => 0

mutual

/--
How deep a draft is nested as it is written.  Every parenthesis, call and unary operator counts for
what it encloses, and every link of a chain for the operand after it.
-/
def nesting : Draft → (limit : Nat) → Nat
  | literal _, _ => 0
  | call _ arguments, _ => nestingOfAll arguments + 1
  | unary _ operand, _ => operand.nesting 0 + 1
  | binary op left right, limit =>
    let chain :=
      max (left.nesting op.tier) (left.links op.tier + 1 + right.nesting (op.tier - 1))
    if op.tier ≤ limit then chain else chain + 1

def nestingOfAll : List Draft → Nat
  | [] => 0
  | draft :: rest => max (draft.nesting BinaryOp.loosest) (nestingOfAll rest)

end

end Draft

/-! ## Every writable tree has a draft -/

theorem Draft.exists_of_each {trees : List Tree}
    (each : ∀ tree ∈ trees, ∃ draft : Draft, draft.tree = tree.withoutSpans) :
    ∃ drafts, Draft.treesOfAll drafts = Tree.withoutSpansOfAll trees := by
  induction trees with
  | nil => exact ⟨[], rfl⟩
  | cons tree rest induction =>
      rcases each tree List.mem_cons_self with ⟨draft, same⟩
      rcases induction fun other member => each other (List.mem_cons_of_mem tree member) with
        ⟨drafts, sameAll⟩
      exact ⟨draft :: drafts, by simp [treesOfAll, Tree.withoutSpansOfAll, same, sameAll]⟩

theorem Tree.Writable.exists_draft {tree : Tree} (writable : tree.Writable) :
    ∃ draft : Draft, draft.tree = tree.withoutSpans := by
  induction writable with
  | boolean truth => exact ⟨.literal (.boolean truth), rfl⟩
  | number numeral => exact ⟨.literal (.number numeral), rfl⟩
  | text content => exact ⟨.literal (.string .double content), rfl⟩
  | @call name arguments span valid each induction =>
      rcases Draft.exists_of_each induction with ⟨drafts, same⟩
      exact ⟨.call ⟨name, valid⟩ drafts, by simp [Draft.tree, Tree.withoutSpans, same]⟩
  | @unary op operand inner induction =>
      rcases induction with ⟨draft, same⟩
      exact ⟨.unary op draft, by simp [Draft.tree, Tree.withoutSpans, same]⟩
  | @binary op left right first second firstInduction secondInduction =>
      rcases firstInduction with ⟨left, sameLeft⟩
      rcases secondInduction with ⟨right, sameRight⟩
      exact ⟨.binary op left right, by simp [Draft.tree, Tree.withoutSpans, sameLeft, sameRight]⟩

/-! ## Drafts are written in the grammar -/

theorem Numeral.read?_text (numeral : Numeral) :
    Decimal.read? numeral.text = some numeral.decimal := by
  cases numeral with
  | whole digits =>
      have nothing : ∀ next ∈ ([] : List Char).head?, Decimal.isDigit next = false := by simp
      have taken := Token.takeWhile_row digits.isDigit nothing
      have left := Token.dropWhile_row digits.isDigit nothing
      rw [List.append_nil] at taken left
      simp [text, Decimal.read?, taken, left, digits.ne_nil, decimal]
  | point digits places =>
      have ends : ∀ next ∈ ('.' :: places.characters).head?, Decimal.isDigit next = false := by
        intro next member
        cases member
        decide
      have allPlaces : places.characters.all Decimal.isDigit = true :=
        List.all_eq_true.mpr places.isDigit
      simp [text, Decimal.read?, Token.takeWhile_row digits.isDigit ends,
        Token.dropWhile_row digits.isDigit ends, digits.ne_nil, places.ne_nil, allPlaces, decimal]

/-- The text of a literal token is read as the value of the literal. -/
theorem Literal.literalValue {written : Literal} {text : String}
    (same : text.toList = written.content) :
    Tree.literalValue written.kind text = .ok written.value := by
  cases written with
  | boolean truth =>
      rw [kind, Tree.literalValue, same]
      cases truth <;> rfl
  | number numeral =>
      have read : Decimal.read? text.toList = some numeral.decimal := by
        rw [same]
        exact numeral.read?_text
      simp [kind, Tree.literalValue, read, value, Numeral.number]
  | string mark content =>
      rw [String.toList_inj.mp same]
      rfl

/-- What binds closely enough for a tier does so for the tiers above. -/
theorem Derives.loosen {tier links nesting limit : Nat} {tokens : List Token} {tree : Tree}
    (derived : Derives (.expression tier links) nesting tokens [tree]) (below : tier < limit) :
    Derives (.expression limit 0) nesting tokens [tree] := by
  induction below with
  | refl => exact derived.tighter
  | step _ induction => exact induction.tighter

theorem Derives.widen {tier links nesting limit : Nat} {tokens : List Token} {tree : Tree}
    (derived : Derives (.expression tier links) nesting tokens [tree]) (within : tier ≤ limit) :
    ∃ links', Derives (.expression limit links') nesting tokens [tree] := by
  rcases Nat.eq_or_lt_of_le within with rfl | below
  · exact ⟨links, derived⟩
  · exact ⟨0, derived.loosen below⟩

theorem Derives.operand {nesting : Nat} {tokens : List Token} {tree : Tree}
    (derived : Derives (.expression 0 0) nesting tokens [tree]) (limit : Nat) :
    Derives (.expression limit 0) nesting tokens [tree] := by
  cases limit with
  | zero => exact derived
  | succ limit => exact derived.loosen (Nat.zero_lt_succ limit)

namespace Draft

/-- What a draft is written as derives its tree, spans apart. -/
def Derivable (draft : Draft) (limit : Nat) : Prop :=
  ∀ tokens, WrittenAs tokens (draft.lexemes limit) →
    ∃ tree,
      Derives (.expression limit (draft.links limit)) (draft.nesting limit) tokens [tree] ∧
        tree.withoutSpans = draft.tree

theorem derivable_literal (literal : Literal) (limit : Nat) :
    (Draft.literal literal).Derivable limit := by
  intro tokens written
  obtain ⟨token, rfl, kind, content⟩ := WrittenAs.singleton_iff.mp written
  have known : Tree.literalValue token.kind token.value = .ok literal.value := by
    rw [kind]
    exact Literal.literalValue content
  exact ⟨.literal literal.value, (Derives.literal known).operand limit, rfl⟩

theorem derivable_unary {op : UnaryOp} {operand : Draft} (inner : operand.Derivable 0)
    (limit : Nat) : (Draft.unary op operand).Derivable limit := by
  intro tokens written
  rw [lexemes] at written
  obtain ⟨token, more, rfl, kind, -, rest⟩ := WrittenAs.cons_iff.mp written
  rcases inner more rest with ⟨tree, derived, same⟩
  have unlinked : operand.links 0 = 0 := by
    cases operand with
    | binary op left right => cases op <;> rfl
    | _ => rfl
  rw [unlinked] at derived
  refine ⟨.unary op tree, (derived.unary kind).operand limit, ?_⟩
  simp [Tree.withoutSpans, Draft.tree, same]

/-- Tokens in parentheses. -/
theorem of_enclosed {tokens : List Token} {inner : List Lexeme}
    (written : WrittenAs tokens (enclosed inner)) :
    ∃ left content right,
      tokens = left :: content ++ [right] ∧ left.kind = .leftParen ∧ right.kind = .rightParen ∧
        WrittenAs content inner := by
  obtain ⟨left, more, rfl, opened, -, rest⟩ := WrittenAs.cons_iff.mp written
  obtain ⟨content, last, rfl, inside, closing⟩ := WrittenAs.append_iff.mp rest
  obtain ⟨right, rfl, closed, -⟩ := WrittenAs.singleton_iff.mp closing
  exact ⟨left, content, right, rfl, opened, closed, inside⟩

/-- A chain derives the tree of its last operator. -/
theorem derives_chain {op : BinaryOp} {left right : Draft} {tokens : List Token}
    (first : left.Derivable op.tier) (second : right.Derivable (op.tier - 1))
    (written : WrittenAs tokens
      (left.lexemes op.tier ++ .operator op.operator :: right.lexemes (op.tier - 1))) :
    ∃ tree,
      Derives (.expression op.tier (left.links op.tier + 1))
          (max (left.nesting op.tier) (left.links op.tier + 1 + right.nesting (op.tier - 1)))
          tokens [tree] ∧
        tree.withoutSpans = .binary op left.tree right.tree := by
  obtain ⟨before, more, rfl, writtenLeft, rest⟩ := WrittenAs.append_iff.mp written
  obtain ⟨token, after, rfl, kind, -, writtenRight⟩ := WrittenAs.cons_iff.mp rest
  rcases first before writtenLeft with ⟨leftTree, chain, sameLeft⟩
  rcases second after writtenRight with ⟨rightTree, operand, sameRight⟩
  refine ⟨.binary op leftTree rightTree, ?_, by simp [Tree.withoutSpans, sameLeft, sameRight]⟩
  obtain ⟨tier, listed⟩ : ∃ tier, op.tier = tier + 1 := by cases op <;> exact ⟨_, rfl⟩
  rw [listed] at chain operand ⊢
  exact chain.link kind listed operand

theorem derivable_binary {op : BinaryOp} {left right : Draft}
    (first : left.Derivable op.tier) (second : right.Derivable (op.tier - 1)) (limit : Nat) :
    (Draft.binary op left right).Derivable limit := by
  intro tokens written
  rw [lexemes] at written
  rw [nesting, links, tree]
  by_cases admitted : op.tier ≤ limit
  · rw [if_pos admitted] at written ⊢
    rcases derives_chain first second written with ⟨tree, derived, same⟩
    refine ⟨tree, ?_, same⟩
    split
    · next listed =>
      rw [← listed]
      exact derived
    · next other => exact derived.loosen (by omega)
  · rw [if_neg admitted] at written ⊢
    obtain ⟨left', content, right', rfl, opened, closed, inside⟩ := of_enclosed written
    rcases derives_chain first second inside with ⟨tree, derived, same⟩
    refine ⟨tree, ?_, same⟩
    rw [if_neg (by omega)]
    rcases derived.widen op.tier_le_loosest with ⟨links, widened⟩
    exact (widened.parentheses opened closed).operand limit

theorem derives_arguments {first : Draft} {rest : List Draft} {tokens : List Token}
    (each : ∀ draft ∈ first :: rest, draft.Derivable BinaryOp.loosest)
    (written : WrittenAs tokens (lexemesOfAll (first :: rest))) :
    ∃ trees,
      Derives .arguments (nestingOfAll (first :: rest)) tokens trees ∧
        Tree.withoutSpansOfAll trees = treesOfAll (first :: rest) := by
  induction rest generalizing first tokens with
  | nil =>
      rw [lexemesOfAll] at written
      rcases each first List.mem_cons_self tokens written with ⟨tree, derived, same⟩
      refine ⟨[tree], ?_, by simp [Tree.withoutSpansOfAll, treesOfAll, same]⟩
      simpa [nestingOfAll] using derived.lastArgument
  | cons next rest induction =>
      rw [lexemesOfAll] at written
      obtain ⟨before, more, rfl, writtenFirst, others⟩ := WrittenAs.append_iff.mp written
      obtain ⟨comma, after, rfl, separated, -, writtenRest⟩ := WrittenAs.cons_iff.mp others
      rcases each first List.mem_cons_self before writtenFirst with ⟨tree, derived, same⟩
      have later : ∀ draft ∈ next :: rest, draft.Derivable BinaryOp.loosest :=
        fun draft member => each draft (List.mem_cons_of_mem first member)
      rcases induction later writtenRest with ⟨trees, derivedRest, sameRest⟩
      refine ⟨tree :: trees, derived.argument separated derivedRest, ?_⟩
      rw [Tree.withoutSpansOfAll, same, sameRest]
      rfl

theorem derivable_call {function : Identifier} {arguments : List Draft}
    (each : ∀ draft ∈ arguments, draft.Derivable BinaryOp.loosest) (limit : Nat) :
    (Draft.call function arguments).Derivable limit := by
  intro tokens written
  rw [lexemes] at written
  obtain ⟨name, more, rfl, kind, content, rest⟩ := WrittenAs.cons_iff.mp written
  obtain ⟨left, inner, right, rfl, opened, closed, inside⟩ := of_enclosed rest
  have named : name.value = function.name := String.toList_inj.mp content
  cases arguments with
  | nil =>
      rw [lexemesOfAll, WrittenAs.nil_iff] at inside
      subst inside
      refine ⟨_, (Derives.callWithout kind opened closed).operand limit, ?_⟩
      simp [Tree.withoutSpans, Tree.withoutSpansOfAll, tree, treesOfAll, named]
  | cons first rest =>
      rcases derives_arguments each inside with ⟨trees, derived, same⟩
      refine ⟨_, (derived.callWith kind opened closed).operand limit, ?_⟩
      simp [Tree.withoutSpans, tree, same, named]

theorem derivable : ∀ (draft : Draft) (limit : Nat), draft.Derivable limit
  | literal written, limit => derivable_literal written limit
  | call _ arguments, limit =>
    derivable_call (fun draft _ => draft.derivable BinaryOp.loosest) limit
  | unary _ operand, limit => derivable_unary (operand.derivable 0) limit
  | binary op left right, limit =>
    derivable_binary (left.derivable op.tier) (right.derivable (op.tier - 1)) limit

/-! ## Names are called -/

theorem called_enclosed {inner : List Lexeme} (called : Lexeme.Called inner) :
    Lexeme.Called (enclosed inner) :=
  Lexeme.called_append called trivial

mutual

theorem called_lexemes : ∀ (draft : Draft) (limit : Nat), Lexeme.Called (draft.lexemes limit)
  | literal _, _ => trivial
  | call _ arguments, _ => ⟨rfl, called_enclosed (called_lexemesOfAll arguments)⟩
  | unary _ operand, _ => operand.called_lexemes 0
  | binary op left right, limit => by
    have called : Lexeme.Called
        (left.lexemes op.tier ++ .operator op.operator :: right.lexemes (op.tier - 1)) :=
      Lexeme.called_append (left.called_lexemes op.tier) (right.called_lexemes (op.tier - 1))
    rw [lexemes]
    split
    · exact called
    · exact called_enclosed called

theorem called_lexemesOfAll : ∀ drafts : List Draft, Lexeme.Called (lexemesOfAll drafts)
  | [] => trivial
  | [last] => last.called_lexemes BinaryOp.loosest
  | draft :: next :: rest =>
    Lexeme.called_append (draft.called_lexemes BinaryOp.loosest)
      (called_lexemesOfAll (next :: rest))

end

end Draft

/-! ## The round trip -/

namespace Expression

theorem parse_of_laid {draft : Draft} {source : String}
    (laid : Laid (draft.lexemes BinaryOp.loosest) source.toList) :
    ∃ tree,
      tree.withoutSpans = draft.tree ∧
        (draft.nesting BinaryOp.loosest ≤ maxNesting → parse source = .ok ⟨source, tree⟩) ∧
        (maxNesting < draft.nesting BinaryOp.loosest →
          ∃ place,
            parse source = .error (SyntaxError.ofFailure source ⟨place, .nestedTooDeeply⟩)) := by
  rcases Token.scan_of_laid laid (draft.called_lexemes BinaryOp.loosest) with
    ⟨tokens, scanned, written⟩
  rcases draft.derivable BinaryOp.loosest tokens written with ⟨tree, derived, same⟩
  have step : read source = Tree.ofTokens source.utf8ByteSize tokens := by
    rw [read, scanned]
    rfl
  refine ⟨tree, same, ?_, ?_⟩
  · intro within
    rw [parse_eq_ok_iff, step, Tree.ofTokens_eq_ok_iff]
    exact ⟨_, _, within, derived⟩
  · intro tooDeep
    rcases Tree.ofTokens_of_exceeding source.utf8ByteSize derived tooDeep with ⟨place, failed⟩
    exact ⟨place, by rw [parse, step, failed]⟩

end Expression

/--
Parsing undoes writing.  A tree whose literals and names can be written has drafts.  However the
literals of a draft are spelled and whatever the blanks between its lexemes are, its text is parsed
to the tree, spans apart, if it is nested within the levels that an expression may take.  A text
that is nested deeper is refused, and for no other reason.
-/
theorem parse_undoes_writing {tree : Tree} (writable : tree.Writable) :
    (∃ draft : Draft, draft.tree = tree.withoutSpans) ∧
    ∀ draft : Draft, draft.tree = tree.withoutSpans →
      (∃ text, Laid (draft.lexemes BinaryOp.loosest) text) ∧
      ∀ source : String, Laid (draft.lexemes BinaryOp.loosest) source.toList →
        (draft.nesting BinaryOp.loosest ≤ maxNesting →
          ∃ read,
            Expression.parse source = .ok ⟨source, read⟩ ∧
              read.withoutSpans = tree.withoutSpans) ∧
        (maxNesting < draft.nesting BinaryOp.loosest →
          ∃ place,
            Expression.parse source =
              .error (SyntaxError.ofFailure source ⟨place, .nestedTooDeeply⟩)) := by
  refine ⟨writable.exists_draft, ?_⟩
  intro draft same
  refine ⟨⟨_, Lexeme.laid_tight _⟩, ?_⟩
  intro source laid
  obtain ⟨read, spansApart, parsed, refused⟩ := Expression.parse_of_laid laid
  refine ⟨?_, refused⟩
  intro within
  exact ⟨read, parsed within, by rw [spansApart, same]⟩

/-- A difference whose second operand is one, too, with both quotes and a backslash. -/
def Draft.difference : Draft :=
  .binary .sub (.literal (.string .double "it's"))
    (.binary .sub (.call ⟨"f", by decide⟩ [.unary .not (.literal (.boolean true))])
      (.literal (.string .single "\\")))

theorem parse_undoes_writing_difference :
    ∃ read,
      Expression.parse "\"it's\"-(f(NOT true)-'\\\\')" =
          .ok ⟨"\"it's\"-(f(NOT true)-'\\\\')", read⟩ ∧
        read.withoutSpans =
          .binary .sub (.literal (.text "it's"))
            (.binary .sub (.call "f" [.unary .not (.literal (.boolean true))] ⟨0, 0⟩)
              (.literal (.text "\\"))) := by
  have writable :
      (Tree.binary .sub (.literal (.text "it's"))
        (.binary .sub (.call "f" [.unary .not (.literal (.boolean true))] ⟨3, 9⟩)
          (.literal (.text "\\")))).Writable := by
    refine .binary (.text _) (.binary (.call (by decide) ?_) (.text _))
    intro argument member
    cases List.mem_singleton.mp member
    exact .unary (.boolean true)
  have whole : "\"it's\"-(f(NOT true)-'\\\\')".toList =
      Lexeme.tight (Draft.difference.lexemes BinaryOp.loosest) := by
    decide +kernel
  have laid : Laid (Draft.difference.lexemes BinaryOp.loosest)
      "\"it's\"-(f(NOT true)-'\\\\')".toList := by
    rw [whole]
    exact Lexeme.laid_tight _
  have parsed := ((parse_undoes_writing writable).2 Draft.difference rfl).2 _ laid
  exact parsed.1 (by decide)

end Vigil
