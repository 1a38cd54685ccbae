import Vigil.Proofs.Expr.Grammar

/-!
# Where functions are mentioned

A text mentions functions in two ways: its tokens name them, and its tree calls them.  A watcher
looks at the tokens alone, without reading the tree.  `Expression.mentions_of_parse` says that this
is enough: in a text that is read as an expression, every function token is a call of the tree and
every call is a function token, at the same place and in the same order.
-/

namespace Vigil

/-- The names of function tokens and where they start, in the order of the tokens. -/
def Token.mentions (tokens : List Token) : List (String × Nat) :=
  (tokens.filter (·.kind == .function)).map fun token => (token.value, token.span.start)

/-- The names of called functions and where the calls start, in the order of the calls. -/
def Call.mentions (calls : List Call) : List (String × Nat) :=
  calls.map fun call => (call.name, call.span.start)

namespace Token

@[simp]
theorem mentions_nil : mentions [] = [] :=
  rfl

@[simp]
theorem mentions_append (left right : List Token) :
    mentions (left ++ right) = mentions left ++ mentions right := by
  simp [mentions]

theorem mentions_cons_of_function {token : Token} (named : token.kind = .function)
    (tokens : List Token) :
    mentions (token :: tokens) = (token.value, token.span.start) :: mentions tokens := by
  simp [mentions, named]

theorem mentions_cons_of_ne {token : Token} (other : token.kind ≠ .function)
    (tokens : List Token) : mentions (token :: tokens) = mentions tokens := by
  simp [mentions, other]

theorem map_fst_mentions (tokens : List Token) :
    (mentions tokens).map Prod.fst = functions tokens := by
  rw [mentions, functions, List.map_map]
  rfl

end Token

theorem Call.map_fst_mentions (calls : List Call) :
    (mentions calls).map Prod.fst = calls.map Call.name := by
  rw [mentions, List.map_map]
  rfl

/-- A literal is no function. -/
theorem Tree.kind_ne_function_of_literalValue {kind : TokenKind} {text : String} {value : Value}
    (known : Tree.literalValue kind text = .ok value) : kind ≠ .function := by
  rintro rfl
  cases known

/-- A phrase mentions what its trees call. -/
theorem Derives.mentions {phrase : Phrase} {nesting : Nat} {tokens : List Token}
    {trees : List Tree} (derived : Derives phrase nesting tokens trees) :
    Token.mentions tokens = Call.mentions (Tree.callsOfAll trees) := by
  induction derived with
  | literal known =>
      rw [Token.mentions_cons_of_ne (Tree.kind_ne_function_of_literalValue known)]
      rfl
  | parentheses opened closed inner induction =>
      rw [List.cons_append, Token.mentions_cons_of_ne (by simp [opened]), Token.mentions_append,
        Token.mentions_cons_of_ne (by simp [closed]), induction]
      simp
  | callWithout named opened closed =>
      rw [Token.mentions_cons_of_function named, Token.mentions_cons_of_ne (by simp [opened]),
        Token.mentions_cons_of_ne (by simp [closed])]
      rfl
  | callWith named opened closed inner induction =>
      rw [List.cons_append, List.cons_append, Token.mentions_cons_of_function named,
        Token.mentions_cons_of_ne (by simp [opened]), Token.mentions_append,
        Token.mentions_cons_of_ne (by simp [closed]), induction]
      simp [Tree.callsOfAll, Tree.calls, Call.mentions]
  | unary written operand induction =>
      rw [Token.mentions_cons_of_ne (by simp [written]), induction]
      simp [Tree.callsOfAll, Tree.calls]
  | tighter inner induction => exact induction
  | link chain written listed operand chainInduction operandInduction =>
      rw [Token.mentions_append, Token.mentions_cons_of_ne (by simp [written]), chainInduction,
        operandInduction]
      simp [Tree.callsOfAll, Tree.calls, Call.mentions]
  | lastArgument argument induction => exact induction
  | argument first separated others firstInduction othersInduction =>
      rw [Token.mentions_append, Token.mentions_cons_of_ne (by simp [separated]), firstInduction,
        othersInduction]
      simp [Tree.callsOfAll, Call.mentions]

/-! ## Names without repetition -/

/-- Removing later occurrences leaves no repetition. -/
theorem nodup_eraseDups : ∀ names : List String, names.eraseDups.Nodup
  | [] => .nil
  | name :: rest => by
      have shorter := List.length_filter_le (fun other => !other == name) rest
      rw [List.eraseDups_cons, List.nodup_cons]
      refine ⟨?_, nodup_eraseDups _⟩
      rw [List.mem_eraseDups]
      simp
termination_by names => names.length
decreasing_by exact Nat.lt_succ_of_le shorter

/-- An outcome whose value is known is no error. -/
theorem eq_ok_of_toOption {ε α : Type} {outcome : Except ε α} {value : α}
    (known : outcome.toOption = some value) : outcome = .ok value := by
  cases outcome with
  | error error => cases known
  | ok other =>
      cases known
      rfl

namespace Expression

/-- Parsing is reading, with a report of what is wrong. -/
theorem read_of_parse {source : String} {expression : Expression}
    (parsed : parse source = .ok expression) : read source = .ok expression.tree := by
  rw [parse] at parsed
  split at parsed
  · next tree accepted =>
    cases parsed
    exact accepted
  · cases parsed

/-- Parsing takes two steps, from the text to its tokens and from these to a tree. -/
theorem parse_of_scan {source : String} {tokens : List Token} {tree : Tree}
    (scanned : (Token.scan source).toOption = some tokens)
    (accepted : Tree.ofTokens source.utf8ByteSize tokens = .ok tree) :
    parse source = .ok ⟨source, tree⟩ := by
  have whole : read source = .ok tree := by
    rw [read, eq_ok_of_toOption scanned]
    exact accepted
  rw [parse, whole]

/-- A text that is an expression consists of tokens, which derive its tree. -/
theorem derives_of_parse {source : String} {expression : Expression}
    (parsed : parse source = .ok expression) :
    ∃ tokens links nesting,
      Token.tokenize source = .ok tokens ∧ nesting ≤ maxNesting ∧
        Derives (.expression BinaryOp.loosest links) nesting tokens [expression.tree] := by
  obtain ⟨tokens, links, nesting, scanned, within, derived⟩ :=
    derives_of_read (read_of_parse parsed)
  refine ⟨tokens, links, nesting, ?_, within, derived⟩
  rw [Token.tokenize, scanned]
  rfl

/-- A text that is an expression consists of tokens, and these mention what its tree calls. -/
theorem mentions_of_parse {source : String} {expression : Expression}
    (parsed : parse source = .ok expression) :
    ∃ tokens,
      Token.tokenize source = .ok tokens ∧
        Token.mentions tokens = Call.mentions expression.tree.calls := by
  obtain ⟨tokens, links, nesting, tokenized, -, derived⟩ := derives_of_parse parsed
  refine ⟨tokens, tokenized, ?_⟩
  rw [derived.mentions, Tree.callsOfAll, Tree.callsOfAll, List.append_nil]

/-- The names that a watcher finds in the tokens of an expression are those of its calls. -/
theorem namesIn_of_parse {source : String} {expression : Expression}
    (parsed : parse source = .ok expression) :
    Token.namesIn source = .ok expression.functionNames := by
  rcases mentions_of_parse parsed with ⟨tokens, tokenized, same⟩
  have names : Token.functions tokens = expression.tree.calls.map Call.name := by
    rw [← Token.map_fst_mentions, same, Call.map_fst_mentions]
  rw [Token.namesIn, tokenized]
  show Except.ok (Token.functions tokens).eraseDups = _
  rw [names]
  rfl

theorem nodup_functionNames (expression : Expression) : expression.functionNames.Nodup :=
  nodup_eraseDups _

theorem mem_functionNames {expression : Expression} {name : String} :
    name ∈ expression.functionNames ↔ ∃ call ∈ expression.tree.calls, call.name = name := by
  rw [functionNames, Tree.functionNames, List.mem_eraseDups, List.mem_map]

end Expression

/-- The names found in any text are distinct. -/
theorem Token.nodup_namesIn {source : String} {names : List String}
    (found : Token.namesIn source = .ok names) : names.Nodup := by
  rw [Token.namesIn] at found
  cases tokenized : Token.tokenize source with
  | error error =>
      rw [tokenized] at found
      cases found
  | ok tokens =>
      rw [tokenized] at found
      cases found
      exact nodup_eraseDups _

end Vigil
