import Vigil.Proofs.Expr.Agreement
import Vigil.Proofs.Watch.Pass

/-!
# Subscriptions learn of every change

The outcome of an expression is settled by the functions that it calls, and a subscription to its
text watches all of them.  So if it matters to an expression how a function behaves, a touch of
this function comes to the subscription and starts its callback, unless those before it in the pass
remove it or unload everything.
-/

namespace Vigil.Hosting

variable {host : Host}

/-- A touch of a function starts the callback of a subscription that is still live at its turn. -/
def World.TouchStarts
    (world : World host) (name : String) (subscription : Subscription host.Callback) : Prop :=
  ∃ earlier later,
    world.watcher.subscribers name = earlier ++ subscription :: later ∧
    ∀ (program : Program host) (depth : Nat) (turns : List (Turn host)) (middle : World host),
      Pass (program.handlers depth) name (world.withTouch name) turns middle →
      turns.map Turn.subscription = earlier →
      .unsubscribed subscription.id ∉ middle.since world →
      .unloaded ∉ middle.since world →
        middle.events ++ [.started subscription.callback] <+:
          ((Context.touch (program.handlers depth).callback name).after world).events

theorem World.Faithful.touchStarts {world : World host} (faithful : world.Faithful)
    {name : String} {subscription : Subscription host.Callback}
    (listed : subscription ∈ world.watcher.subscribers name) :
    world.TouchStarts name subscription := by
  rcases List.append_of_mem listed with ⟨earlier, later, split⟩
  refine ⟨earlier, later, split, ?_⟩
  intro program depth turns middle pass same kept loaded
  have watched : world.watcher.subscribers name ≠ [] := List.ne_nil_of_mem listed
  have live : world.watcher.isLive subscription.id = true :=
    faithful.consistent.isLive_of_mem (Watcher.mem_idsUnder.mpr ⟨subscription, listed, rfl⟩)
  have reached : world.Evolves middle :=
    (world.withTouch_evolves name).trans (pass.evolves (program.handlers_evolving depth))
  have stillLive : middle.watcher.isLive subscription.id = true :=
    (faithful.isLive_iff_since reached live).mpr ⟨kept, loaded⟩
  have touched :
      (Context.touch (program.handlers depth).callback name).after world =
        (Context.notifyAll (program.handlers depth).callback name (subscription :: later)).after
          middle := by
    rw [Action.after, touch_of_watched (faithful.consistent.loaded_of_watched watched) watched,
      ← Action.after, split, ← same, pass.after_notifyAll]
  rw [touched]
  exact (notifyAll_starts program depth name stillLive later).grows

section Expression

variable {source : String} {expression : Expression} {names : List String}
variable (parsed : Expression.parse source = .ok expression)
variable (found : Token.namesIn source = .ok names)
variable {first second : Registry Reaction}
include parsed found

/-- The names in the text of an expression settle its outcome. -/
theorem evaluate_eq_of_agreeOn_namesIn (agree : ∀ name ∈ names, first.AgreeOn second name) :
    first.evaluate expression.tree = second.evaluate expression.tree := by
  rw [Expression.namesIn_of_parse parsed] at found
  cases found
  refine Registry.evaluate_eq_of_agree fun call inside => agree call.name ?_
  exact Expression.mem_functionNames.mpr ⟨call, inside, rfl⟩

/-- A function that makes a difference to an expression is among the names in its text. -/
theorem mem_namesIn_of_evaluate_ne {changed : String}
    (agree : ∀ name, name ≠ changed → first.AgreeOn second name)
    (differ : first.evaluate expression.tree ≠ second.evaluate expression.tree) :
    changed ∈ names := by
  by_cases watched : changed ∈ names
  · exact watched
  · refine absurd ?_ differ
    refine evaluate_eq_of_agreeOn_namesIn parsed found fun name member => ?_
    exact agree name fun same => watched (same ▸ member)

end Expression

/--
Two registries that agree on the names in the text of an expression give it the same outcome.  In
every reachable world these names are what a live subscription to the text watches.  So if two
registries differ in one function only and give the expression different outcomes, the subscription
watches this function, and a touch of it starts the callback.
-/
theorem every_change_starts_subscription
    {source : String} {expression : Expression}
    (parsed : Expression.parse source = .ok expression) :
    ∃ names,
      Token.namesIn source = .ok names ∧
      (∀ first second : Registry Reaction,
        (∀ name ∈ names, first.AgreeOn second name) →
          first.evaluate expression.tree = second.evaluate expression.tree) ∧
      ∀ (host : Host) (world : World host) (id : SubscriptionId) (callback : host.Callback),
        world.Reachable →
        .subscribed id source callback ∈ world.events →
        world.watcher.isLive id = true →
          world.watcher.watchedNames? id = some names ∧
          ∀ (changed : String) (first second : Registry Reaction),
            (∀ name, name ≠ changed → first.AgreeOn second name) →
            first.evaluate expression.tree ≠ second.evaluate expression.tree →
              changed ∈ names ∧ world.TouchStarts changed ⟨id, callback⟩ := by
  have found := Expression.namesIn_of_parse parsed
  refine ⟨expression.functionNames, found, ?_, ?_⟩
  · intro first second agree
    exact evaluate_eq_of_agreeOn_namesIn parsed found agree
  · intro host world id callback reachable subscribed live
    have faithful := reachable.faithful
    rcases faithful.consistent.isLive_iff.mp live with ⟨names, known⟩
    have dealt : .subscribed id source callback ∈ world.dealings :=
      World.mem_dealings.mpr ⟨subscribed, rfl⟩
    rcases faithful.served id source callback names dealt known with ⟨foundThen, listed⟩
    rw [found] at foundThen
    cases foundThen
    refine ⟨known, ?_⟩
    intro changed first second agree differ
    have watched := mem_namesIn_of_evaluate_ne parsed found agree differ
    exact ⟨watched, faithful.touchStarts (listed changed watched)⟩

/-- A registry whose only function always answers the same. -/
def constantly (name : String) (value : Value) : Registry Reaction :=
  Registry.empty.add ⟨name, 0, .host fun _ => .ok value⟩

theorem constantly_agreeOn {name other : String} (differ : other ≠ name) (first second : Value) :
    (constantly name first).AgreeOn (constantly name second) other := by
  have absent (value : Value) : (constantly name value).lookup? other = none :=
    Registry.lookup?_add_ne differ
  rw [Registry.AgreeOn, absent, absent]
  trivial

theorem evaluate_constantly (name : String) (value : Value) (span : Span) :
    (constantly name value).evaluate (.call name [] span) = .ok value := by
  have found : (constantly name value).lookup? name = some ⟨name, 0, .host fun _ => .ok value⟩ :=
    Registry.lookup?_add_self _
  rw [Registry.evaluate_call, Registry.evaluateAll_nil, found]
  rfl

theorem every_change_starts_subscription_waiting :
    Expression.parse "f()" = .ok ⟨"f()", .call "f" [] ⟨0, 3⟩⟩ ∧
    ∃ names,
      Errand.waiting.watcher.watchedNames? 2 = some names ∧
      "f" ∈ names ∧
      Errand.waiting.TouchStarts "f" ⟨2, Errand.fail⟩ := by
  have scanned :
      (Token.scan "f()").toOption =
        some
          [⟨.function, "f", ⟨0, 1⟩⟩, ⟨.leftParen, "(", ⟨1, 2⟩⟩, ⟨.rightParen, ")", ⟨2, 3⟩⟩] := by
    decide +kernel
  have parsed : Expression.parse "f()" = .ok ⟨"f()", .call "f" [] ⟨0, 3⟩⟩ := by
    apply Expression.parse_of_scan scanned
    simp [Tree.ofTokens, Tree.ofTier, Tree.ofChain, Tree.ofOperand, Tree.ofPrimary,
      Token.unary?, BinaryOp.loosest, maxNesting]
  have subscribed : .subscribed 2 "f()" Errand.fail ∈ Errand.waiting.events := by
    have found : Token.namesIn "f()" = .ok ["f"] := Expression.namesIn_of_parse parsed
    simp only [Errand.waiting, Errand.enlist, Procedure.run, perform, World.subscribe,
      Context.subscribe, found]
    exact .tail _ (.head _)
  have live : Errand.waiting.watcher.isLive 2 = true := by decide +kernel
  have differ :
      (constantly "f" (.boolean true)).evaluate (.call "f" [] ⟨0, 3⟩) ≠
        (constantly "f" (.boolean false)).evaluate (.call "f" [] ⟨0, 3⟩) := by
    rw [evaluate_constantly, evaluate_constantly]
    simp
  rcases every_change_starts_subscription parsed with ⟨names, -, -, reacts⟩
  rcases reacts _ _ 2 Errand.fail Errand.waiting_reachable subscribed live with ⟨known, starts⟩
  rcases starts "f" _ _ (fun name other => constantly_agreeOn other _ _) differ with
    ⟨watched, touched⟩
  exact ⟨parsed, names, known, watched, touched⟩

end Vigil.Hosting
