import Vigil.Proofs.Expr.Quotation

/-!
# Spans lie as the calls do

Tokens stand one after the other, and a call goes from its name to the parenthesis that closes it.
So the spans of calls show how the calls are nested: what is called in an argument stands strictly
inside the span, and what is called side by side stands apart, in the order of the operands.  A tree
with spans of this kind is `Tree.Orderly`, and whatever is derived from tokens in order is.

`Expression.calls_quote_source` puts this together with what `Expression.parse_quotation` says of
each single call.
-/

namespace Vigil

/-! ## Spans and addresses -/

/-- A span stands strictly inside another one. -/
def Span.Inside (inner outer : Span) : Prop :=
  outer.start < inner.start ∧ inner.stop < outer.stop

/-- Two spans have no byte in common. -/
def Span.Apart (first second : Span) : Prop :=
  first.stop ≤ second.start ∨ second.stop ≤ first.start

/-- A node stands in one of the operands of another one, at any depth. -/
def Address.Below (lower upper : Address) : Prop :=
  ∃ index beyond, lower = upper ++ index :: beyond

namespace Address

theorem Below.root (index : Nat) (beyond : Address) : Below (index :: beyond) [] :=
  ⟨index, beyond, rfl⟩

theorem Below.cons {lower upper : Address} (below : Below lower upper) (index : Nat) :
    Below (index :: lower) (index :: upper) := by
  obtain ⟨index', beyond, rfl⟩ := below
  exact ⟨index', beyond, rfl⟩

theorem Below.of_cons {index index' : Nat} {lower upper : Address}
    (below : Below (index :: lower) (index' :: upper)) : index = index' ∧ Below lower upper := by
  obtain ⟨index'', beyond, same⟩ := below
  cases same
  exact ⟨rfl, index'', beyond, rfl⟩

end Address

/-! ## Orderly trees -/

namespace Tree

/-- All calls of one tree end before those of another one begin. -/
def LeftOf (left right : Tree) : Prop :=
  ∀ first ∈ left.calls, ∀ second ∈ right.calls, first.span.stop ≤ second.span.start

/--
The spans of the calls of a tree lie as the calls do.  A call has those in its arguments strictly
inside, and of two operands the left one has its calls before those of the right one.
-/
inductive Orderly : Tree → Prop where
  | node {tree : Tree}
      (inside : ∀ call ∈ tree.call?, ∀ operand ∈ tree.operands, ∀ inner ∈ operand.calls,
        inner.span.Inside call.span)
      (ordered : tree.operands.Pairwise LeftOf)
      (each : ∀ operand ∈ tree.operands, Orderly operand) :
      Orderly tree

/-- The calls of a tree are the one at its root and those of its operands. -/
theorem calls_eq (tree : Tree) :
    tree.calls = tree.call?.toList ++ tree.operands.flatMap calls := by
  cases tree <;> simp [calls, call?, operands, callsOfAll_eq_flatMap]

theorem mem_calls_of_at? {tree node : Tree} {address : Address} {call : Call}
    (found : tree.at? address = some node) (root : node.call? = some call) :
    call ∈ tree.calls := by
  induction address generalizing tree with
  | nil =>
      cases found
      rw [calls_eq, root]
      exact List.mem_cons_self
  | cons index rest induction =>
      obtain ⟨operand, listed, found⟩ := Option.bind_eq_some_iff.mp found
      rw [calls_eq, List.mem_append, List.mem_flatMap]
      exact .inr ⟨operand, List.mem_of_getElem? listed, induction found⟩

/-- How two calls of a tree lie: one inside the other and below it, or apart and not below. -/
def Placed (address address' : Address) (span span' : Span) : Prop :=
  (address'.Below address ∧ span'.Inside span) ∨
    (address.Below address' ∧ span.Inside span') ∨
      (¬address.Below address' ∧ ¬address'.Below address ∧ span.Apart span')

theorem Placed.cons {address address' : Address} {span span' : Span}
    (placed : Placed address address' span span') (index : Nat) :
    Placed (index :: address) (index :: address') span span' := by
  rcases placed with ⟨below, inside⟩ | ⟨below, inside⟩ | ⟨notBelow, notBelow', apart⟩
  · exact .inl ⟨below.cons index, inside⟩
  · exact .inr (.inl ⟨below.cons index, inside⟩)
  · exact .inr (.inr ⟨fun below => notBelow below.of_cons.2, fun below => notBelow' below.of_cons.2,
      apart⟩)

/-- Calls in different operands are apart, whichever comes first. -/
theorem apart_of_operands {operands : List Tree} {left right : Tree} {index index' : Nat}
    {call call' : Call}
    (ordered : operands.Pairwise LeftOf)
    (listed : operands[index]? = some left) (listed' : operands[index']? = some right)
    (different : index ≠ index') (member : call ∈ left.calls) (member' : call' ∈ right.calls) :
    call.span.Apart call'.span := by
  obtain ⟨within, rfl⟩ := List.getElem?_eq_some_iff.mp listed
  obtain ⟨within', rfl⟩ := List.getElem?_eq_some_iff.mp listed'
  rw [List.pairwise_iff_getElem] at ordered
  rcases Nat.lt_or_gt_of_ne different with less | less
  · exact .inl (ordered index index' within within' less call member call' member')
  · exact .inr (ordered index' index within' within less call' member' call member)

theorem Orderly.placed {tree first second : Tree} {address address' : Address}
    {call call' : Call} (orderly : tree.Orderly)
    (found : tree.at? address = some first) (root : first.call? = some call)
    (found' : tree.at? address' = some second) (root' : second.call? = some call')
    (different : address ≠ address') :
    Placed address address' call.span call'.span := by
  induction address generalizing tree address' with
  | nil =>
      cases found
      cases address' with
      | nil => exact absurd rfl different
      | cons index beyond =>
          cases orderly with
          | node inside ordered each =>
              obtain ⟨operand, listed, found'⟩ := Option.bind_eq_some_iff.mp found'
              have within := inside call root operand (List.mem_of_getElem? listed) call'
                (mem_calls_of_at? found' root')
              exact .inl ⟨.root index beyond, within⟩
  | cons index rest induction =>
      cases orderly with
      | node inside ordered each =>
          obtain ⟨left, listed, foundLeft⟩ := Option.bind_eq_some_iff.mp found
          cases address' with
          | nil =>
              cases found'
              have within := inside call' root' left (List.mem_of_getElem? listed) call
                (mem_calls_of_at? foundLeft root)
              exact .inr (.inl ⟨.root index rest, within⟩)
          | cons index' rest' =>
              obtain ⟨right, listed', foundRight⟩ := Option.bind_eq_some_iff.mp found'
              -- In one operand the calls lie as they do there; two operands are in order.
              by_cases same : index = index'
              · subst same
                cases listed.symm.trans listed'
                have orderly := each left (List.mem_of_getElem? listed)
                have placed := induction orderly foundLeft foundRight
                  fun equal => different (congrArg (List.cons index) equal)
                exact placed.cons index
              · refine .inr (.inr ⟨fun below => same below.of_cons.1,
                  fun below => same below.of_cons.1.symm, ?_⟩)
                exact apart_of_operands ordered listed listed' same
                  (mem_calls_of_at? foundLeft root) (mem_calls_of_at? foundRight root')

end Tree

/-! ## Trees that are derived from tokens in order -/

/-- A token stands before another one, and neither is empty. -/
def Token.Precedes (first second : Token) : Prop :=
  first.span.start < first.span.stop ∧ first.span.stop ≤ second.span.start ∧
    second.span.start < second.span.stop

/-- The tokens of a text stand one after the other. -/
theorem Token.Cut.precedes {following characters : List Char} {offset : Nat} {tokens : List Token}
    (cut : Cut following offset characters tokens) : tokens.Pairwise Precedes := by
  refine cut.ordered.imp_of_mem fun {first second} isFirst isSecond before => ?_
  exact ⟨(cut.bounds first isFirst).2.1, before, (cut.bounds second isSecond).2.1⟩

/-- The span of a call goes from one of some tokens to another. -/
def Call.SpansAmong (tokens : List Token) (call : Call) : Prop :=
  ∃ first ∈ tokens, ∃ last ∈ tokens, call.span = ⟨first.span.start, last.span.stop⟩

theorem Call.SpansAmong.mono {tokens tokens' : List Token} {call : Call}
    (spans : call.SpansAmong tokens) (more : ∀ token ∈ tokens, token ∈ tokens') :
    call.SpansAmong tokens' := by
  obtain ⟨first, isFirst, last, isLast, same⟩ := spans
  exact ⟨first, more first isFirst, last, more last isLast, same⟩

theorem Derives.spansAmong {phrase : Phrase} {nesting : Nat} {tokens : List Token}
    {trees : List Tree} (derived : Derives phrase nesting tokens trees) :
    ∀ tree ∈ trees, ∀ call ∈ tree.calls, call.SpansAmong tokens := by
  induction derived with
  | literal known =>
      intro tree member call inside
      cases List.mem_singleton.mp member
      cases inside
  | parentheses opened closed inner induction =>
      intro tree member call inside
      exact (induction tree member call inside).mono (by simp +contextual)
  | callWithout named opened closed =>
      intro tree member call inside
      cases List.mem_singleton.mp member
      cases List.mem_singleton.mp inside
      exact ⟨_, by simp, _, by simp, rfl⟩
  | callWith named opened closed inner induction =>
      intro tree member call inside
      cases List.mem_singleton.mp member
      rw [Tree.calls, Tree.callsOfAll_eq_flatMap] at inside
      rcases List.mem_cons.mp inside with rfl | inside
      · exact ⟨_, by simp, _, by simp, rfl⟩
      · obtain ⟨argument, listed, inside⟩ := List.mem_flatMap.mp inside
        exact (induction argument listed call inside).mono (by simp +contextual)
  | unary written operand induction =>
      intro tree member call inside
      cases List.mem_singleton.mp member
      exact (induction _ List.mem_cons_self call inside).mono (by simp +contextual)
  | tighter inner induction => exact induction
  | link chain written listed operand chainInduction operandInduction =>
      intro tree member call inside
      cases List.mem_singleton.mp member
      rcases List.mem_append.mp inside with inside | inside
      · exact (chainInduction _ List.mem_cons_self call inside).mono (by simp +contextual)
      · exact (operandInduction _ List.mem_cons_self call inside).mono (by simp +contextual)
  | lastArgument argument induction => exact induction
  | argument first separated others firstInduction othersInduction =>
      intro tree member call inside
      rcases List.mem_cons.mp member with rfl | member
      · exact (firstInduction tree List.mem_cons_self call inside).mono (by simp +contextual)
      · exact (othersInduction tree member call inside).mono (by simp +contextual)

/-- Trees that are derived from earlier tokens have their calls further to the left. -/
theorem Tree.leftOf_of_spansAmong {before after : List Token} {left right : Tree}
    (inOrder : ∀ first ∈ before, ∀ second ∈ after, first.Precedes second)
    (earlier : ∀ call ∈ left.calls, call.SpansAmong before)
    (later : ∀ call ∈ right.calls, call.SpansAmong after) : left.LeftOf right := by
  intro call inside call' inside'
  obtain ⟨opening, _, last, isLast, same⟩ := earlier call inside
  obtain ⟨first, isFirst, closing, _, same'⟩ := later call' inside'
  rw [same, same']
  exact (inOrder last isLast first isFirst).2.1

/-- What is derived from tokens that stand one after the other is orderly. -/
theorem Derives.orderly {phrase : Phrase} {nesting : Nat} {tokens : List Token}
    {trees : List Tree} (derived : Derives phrase nesting tokens trees)
    (inOrder : tokens.Pairwise Token.Precedes) :
    (∀ tree ∈ trees, tree.Orderly) ∧ trees.Pairwise Tree.LeftOf := by
  induction derived with
  | literal known =>
      refine ⟨fun tree member => ?_, List.pairwise_singleton _ _⟩
      cases List.mem_singleton.mp member
      exact .node (by rintro call ⟨⟩) .nil (by rintro operand ⟨⟩)
  | parentheses opened closed inner induction =>
      rw [List.cons_append, List.pairwise_cons, List.pairwise_append] at inOrder
      exact induction inOrder.2.1
  | callWithout named opened closed =>
      refine ⟨fun tree member => ?_, List.pairwise_singleton _ _⟩
      cases List.mem_singleton.mp member
      exact .node (by rintro call - operand ⟨⟩) .nil (by rintro operand ⟨⟩)
  | @callWith nesting name left right tokens trees named opened closed inner induction =>
      rw [List.cons_append, List.cons_append, List.pairwise_cons,
        List.pairwise_cons, List.pairwise_append] at inOrder
      obtain ⟨fromName, -, inOrder, -, toRight⟩ := inOrder
      have arguments := induction inOrder
      refine ⟨fun tree member => ?_, List.pairwise_singleton _ _⟩
      cases List.mem_singleton.mp member
      refine .node ?_ arguments.2 arguments.1
      -- A call in an argument is made of tokens between the name and the last parenthesis.
      intro call root argument listed call' inside
      cases root
      obtain ⟨first, isFirst, last, isLast, same⟩ := inner.spansAmong argument listed call' inside
      have opens := fromName first
        (List.mem_cons_of_mem _ (List.mem_append_left _ isFirst))
      have closes := toRight last isLast right (List.mem_singleton_self right)
      rw [same]
      exact ⟨Nat.lt_of_lt_of_le opens.1 opens.2.1, Nat.lt_of_le_of_lt closes.2.1 closes.2.2⟩
  | unary written operand induction =>
      rw [List.pairwise_cons] at inOrder
      refine ⟨fun tree member => ?_, List.pairwise_singleton _ _⟩
      cases List.mem_singleton.mp member
      exact .node (by rintro call ⟨⟩) (List.pairwise_singleton _ _) (induction inOrder.2).1
  | tighter inner induction => exact induction inOrder
  | link chain written listed operand chainInduction operandInduction =>
      rw [List.pairwise_append, List.pairwise_cons] at inOrder
      obtain ⟨before, ⟨-, after⟩, between⟩ := inOrder
      refine ⟨fun tree member => ?_, List.pairwise_singleton _ _⟩
      cases List.mem_singleton.mp member
      refine .node (by rintro call ⟨⟩) (List.pairwise_pair.mpr ?_) ?_
      · exact Tree.leftOf_of_spansAmong
          (fun first isFirst second isSecond =>
            between first isFirst second (List.mem_cons_of_mem _ isSecond))
          (chain.spansAmong _ List.mem_cons_self) (operand.spansAmong _ List.mem_cons_self)
      · intro tree member
        rcases List.mem_pair.mp member with rfl | rfl
        · exact (chainInduction before).1 _ List.mem_cons_self
        · exact (operandInduction after).1 _ List.mem_cons_self
  | lastArgument argument induction => exact induction inOrder
  | argument first separated others firstInduction othersInduction =>
      rw [List.pairwise_append, List.pairwise_cons] at inOrder
      obtain ⟨before, ⟨-, after⟩, between⟩ := inOrder
      have one := firstInduction before
      have more := othersInduction after
      refine ⟨List.forall_mem_cons.mpr ⟨one.1 _ List.mem_cons_self, more.1⟩,
        List.pairwise_cons.mpr ⟨fun tree member => ?_, more.2⟩⟩
      exact Tree.leftOf_of_spansAmong
        (fun first isFirst second isSecond =>
          between first isFirst second (List.mem_cons_of_mem _ isSecond))
        (first.spansAmong _ List.mem_cons_self) (others.spansAmong tree member)

/-! ## Calls quote the source -/

namespace Expression

theorem orderly_of_parse {source : String} {expression : Expression}
    (parsed : parse source = .ok expression) : expression.tree.Orderly := by
  obtain ⟨tokens, links, nesting, tokenized, -, derived⟩ := derives_of_parse parsed
  have inOrder := (Token.tokenize_eq_ok_iff.mp tokenized).precedes
  exact (derived.orderly inOrder).1 _ List.mem_cons_self

/--
The span of a call, wherever it stands in a tree, takes out of the source what is parsed to this
very call, at the beginning of a source of its own.  Of the spans of two calls, one is strictly
inside the other where the call is in one of the other's arguments; they are apart where neither
call is.
-/
theorem calls_quote_source {source : String} {expression : Expression}
    (parsed : parse source = .ok expression) :
    (∀ address name arguments span,
      expression.tree.at? address = some (.call name arguments span) →
        ∃ text node,
          span.Takes source text ∧ parse text = .ok ⟨text, node⟩ ∧
            node.shift span.start = .call name arguments span) ∧
    ∀ address address' name name' arguments arguments' span span',
      expression.tree.at? address = some (.call name arguments span) →
        expression.tree.at? address' = some (.call name' arguments' span') →
          address ≠ address' → Tree.Placed address address' span span' := by
  refine ⟨?_, ?_⟩
  · intro address name arguments span found
    exact parse_quotation parsed found
  · intro address address' name name' arguments arguments' span span' found found' different
    exact (orderly_of_parse parsed).placed found rfl found' rfl different

theorem calls_quote_source_nested :
    ∃ expression,
      parse "f(g('ü'), h())" = .ok expression ∧
      (∃ text node,
        Span.Takes ⟨2, 9⟩ "f(g('ü'), h())" text ∧ parse text = .ok ⟨text, node⟩ ∧
          node.shift 2 = .call "g" [.literal (.text "ü")] ⟨2, 9⟩) ∧
      Tree.Placed [] [0] ⟨0, 15⟩ ⟨2, 9⟩ ∧ Tree.Placed [0] [1] ⟨2, 9⟩ ⟨11, 14⟩ := by
  have scanned :
      (Token.scan "f(g('ü'), h())").toOption =
        some
          [⟨.function, "f", ⟨0, 1⟩⟩, ⟨.leftParen, "(", ⟨1, 2⟩⟩, ⟨.function, "g", ⟨2, 3⟩⟩,
            ⟨.leftParen, "(", ⟨3, 4⟩⟩, ⟨.string, "ü", ⟨4, 8⟩⟩, ⟨.rightParen, ")", ⟨8, 9⟩⟩,
            ⟨.comma, ",", ⟨9, 10⟩⟩, ⟨.function, "h", ⟨11, 12⟩⟩, ⟨.leftParen, "(", ⟨12, 13⟩⟩,
            ⟨.rightParen, ")", ⟨13, 14⟩⟩, ⟨.rightParen, ")", ⟨14, 15⟩⟩] := by
    decide +kernel
  have parsed :
      parse "f(g('ü'), h())" =
        .ok ⟨"f(g('ü'), h())",
          .call "f" [.call "g" [.literal (.text "ü")] ⟨2, 9⟩, .call "h" [] ⟨11, 14⟩] ⟨0, 15⟩⟩ := by
    apply parse_of_scan scanned
    simp [Tree.ofTokens, Tree.ofTier, Tree.ofChain, Tree.ofOperand, Tree.ofPrimary,
      Tree.ofArguments, Token.binaryOf?, Token.unary?, BinaryOp.loosest, Tree.literalValue,
      maxNesting]
  obtain ⟨quoted, placed⟩ := calls_quote_source parsed
  exact ⟨_, parsed, quoted [0] _ _ _ rfl, placed [] [0] _ _ _ _ _ _ rfl rfl (by decide),
    placed [0] [1] _ _ _ _ _ _ rfl rfl (by decide)⟩

end Expression

end Vigil
