import Vigil.Context
import Vigil.Proofs.Expr.Mentions
import Vigil.Proofs.Watch.Index

/-!
# What a subscription watches

Subscribing looks at the tokens of a text only.  This module says what a subscription in a context
comes to, and that for an expression it watches exactly the functions that the expression calls.
-/

namespace Vigil.Context

variable {host : Host}

/-- A text that is not made of tokens changes nothing. -/
theorem subscribe_of_error {source : String} {error : SyntaxError}
    (failed : Token.namesIn source = .error error)
    (context : Context host) (callback : host.Callback) :
    context.subscribe source callback = (.error error, context) := by
  rw [subscribe, failed]

/-- Otherwise the names in it are watched under the next number. -/
theorem subscribe_of_ok {source : String} {names : List String}
    (found : Token.namesIn source = .ok names)
    (context : Context host) (callback : host.Callback) :
    ∃ journal,
      context.subscribe source callback =
        (.ok context.watcher.nextId,
          { context with
            watcher := (context.watcher.subscribe names callback).2
            journal }) := by
  have number : (context.watcher.subscribe names callback).1 = context.watcher.nextId :=
    Watcher.subscribe_id callback
  rw [subscribe, found]
  dsimp only
  rw [number]
  split <;> exact ⟨_, rfl⟩

/-- Removing what is not subscribed changes nothing. -/
theorem unsubscribe_of_unknown {context : Context host} {id : SubscriptionId}
    (unknown : context.watcher.watchedNames? id = none) :
    context.unsubscribe id = (false, context) := by
  rw [unsubscribe, Watcher.unsubscribe_of_unknown unknown]
  rfl

/-- Otherwise the subscription is removed from the watcher. -/
theorem unsubscribe_of_known {context : Context host} {id : SubscriptionId} {names : List String}
    (known : context.watcher.watchedNames? id = some names) :
    ∃ journal,
      context.unsubscribe id =
        (true,
          { context with
            watcher := (context.watcher.unsubscribe id).2
            journal }) := by
  have removed := Watcher.unsubscribe_of_known known
  rw [unsubscribe]
  dsimp only
  rw [if_pos removed]
  exact ⟨_, rfl⟩

end Vigil.Context

namespace Vigil

/--
The tokens of an expression name exactly the functions that its tree calls, each as often and where
it is called.  So subscribing to it succeeds and, as long as nothing is unloaded, puts the new
subscription under the names of these functions and under no other name; an unloaded watcher hands
out a number and keeps nothing.
-/
theorem subscription_watches_calls
    {source : String} {expression : Expression}
    (parsed : Expression.parse source = .ok expression) :
    (∃ tokens,
      Token.tokenize source = .ok tokens ∧
        Token.mentions tokens = Call.mentions expression.tree.calls) ∧
    (∀ (host : Host) (context : Context host) (callback : host.Callback),
      ∃ id after,
        context.subscribe source callback = (.ok id, after) ∧
        (context.watcher.unloaded = false →
          after.watcher.watchedNames? id = some expression.functionNames ∧
          ∀ name,
            after.watcher.subscribers name =
              context.watcher.subscribers name ++
                if name ∈ expression.functionNames then [⟨id, callback⟩] else []) ∧
        (context.watcher.unloaded = true →
          after.watcher = { context.watcher with nextId := context.watcher.nextId + 1 })) ∧
    expression.functionNames.Nodup ∧
    ∀ name,
      name ∈ expression.functionNames ↔ ∃ call ∈ expression.tree.calls, call.name = name := by
  refine ⟨Expression.mentions_of_parse parsed, ?_, expression.nodup_functionNames,
    fun name => Expression.mem_functionNames⟩
  intro host context callback
  have found := Expression.namesIn_of_parse parsed
  rcases context.subscribe_of_ok found callback with ⟨journal, subscribed⟩
  refine ⟨_, _, subscribed, ?_, ?_⟩
  · intro loaded
    have distinct := expression.nodup_functionNames
    constructor
    · dsimp only
      rw [Watcher.watchedNames?_subscribe callback loaded, if_pos rfl]
    · exact Watcher.subscribers_subscribe callback loaded distinct
  · intro unloaded
    dsimp only
    rw [Watcher.subscribe_of_unloaded callback unloaded]

theorem subscription_watches_calls_nested :
    ∃ expression,
      Expression.parse "f(g('f()'))" = .ok expression ∧
      (∃ tokens,
        Token.tokenize "f(g('f()'))" = .ok tokens ∧
          Token.mentions tokens = [("f", 0), ("g", 2)]) ∧
      ∀ (host : Host) (context : Context host) (callback : host.Callback),
        context.watcher.unloaded = false →
          ∃ id after,
            context.subscribe "f(g('f()'))" callback = (.ok id, after) ∧
              after.watcher.watchedNames? id = some ["f", "g"] := by
  have scanned :
      (Token.scan "f(g('f()'))").toOption =
        some
          [⟨.function, "f", ⟨0, 1⟩⟩, ⟨.leftParen, "(", ⟨1, 2⟩⟩, ⟨.function, "g", ⟨2, 3⟩⟩,
            ⟨.leftParen, "(", ⟨3, 4⟩⟩, ⟨.string, "f()", ⟨4, 9⟩⟩, ⟨.rightParen, ")", ⟨9, 10⟩⟩,
            ⟨.rightParen, ")", ⟨10, 11⟩⟩] := by
    decide +kernel
  have parsed :
      Expression.parse "f(g('f()'))" =
        .ok ⟨"f(g('f()'))", .call "f" [.call "g" [.literal (.text "f()")] ⟨2, 10⟩] ⟨0, 11⟩⟩ := by
    apply Expression.parse_of_scan scanned
    simp [Tree.ofTokens, Tree.ofTier, Tree.ofChain, Tree.ofOperand, Tree.ofPrimary,
      Tree.ofArguments, Token.binaryOf?, Token.unary?, BinaryOp.loosest, Tree.literalValue,
      maxNesting]
  rcases subscription_watches_calls parsed with ⟨⟨tokens, tokenized, mentioned⟩, subscribes, -⟩
  refine ⟨_, parsed, ⟨tokens, tokenized, mentioned⟩, ?_⟩
  intro host context callback loaded
  rcases subscribes host context callback with ⟨id, after, subscribed, watches, -⟩
  exact ⟨id, after, subscribed, (watches loaded).1⟩

end Vigil
