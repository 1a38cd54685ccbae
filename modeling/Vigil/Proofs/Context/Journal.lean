import Vigil.Context.Delivery

/-!
# The journal of a context

No operation of a context looks at its journal.  An operation adds entries at the end, and it adds
the same ones whatever has been written before.  So the journal tells what has happened in order,
and entries of one kind can be left out of it without making a difference to what happens later.
The entries left out here are those that tell of callbacks which returned an error; operations that
run no code of the host write none of these.
-/

namespace Vigil

/-- Whether an entry says that a callback returned an error. -/
def Log.Entry.isFailure (entry : Log.Entry) : Bool :=
  entry.message == "condition callback failed"

/-- What is written of a change that a probe has found. -/
def Log.Entry.ofChange (change : String × Value) : Log.Entry :=
  ⟨.trace, "polled value changed", [("sensor", change.1), ("value", change.2.display)]⟩

namespace Context

variable {host : Host}

/-- Put another journal in place. -/
def withJournal (context : Context host) (journal : Array Log.Entry) : Context host :=
  { context with journal }

/-- A context whose journal tells of no failures. -/
def withoutFailures (context : Context host) : Context host :=
  context.withJournal (context.journal.filter fun entry => !entry.isFailure)

/-- Contexts that differ in failures at most. -/
def Akin (context context' : Context host) : Prop :=
  context.withoutFailures = context'.withoutFailures

namespace Akin

variable {context context' : Context host} (akin : context.Akin context')
include akin

/-- What does not depend on the journal is the same. -/
theorem eq_of {α : Type} (part : Context host → α)
    (kept : ∀ context, part context.withoutFailures = part context) :
    part context' = part context := by
  have same : context.withoutFailures = context'.withoutFailures := akin
  rw [← kept context', ← same, kept]

theorem registry_eq : context'.registry = context.registry :=
  akin.eq_of Context.registry fun _ => rfl

theorem watcher_eq : context'.watcher = context.watcher :=
  akin.eq_of Context.watcher fun _ => rfl

theorem events_eq : context'.events = context.events :=
  akin.eq_of Context.events fun _ => rfl

theorem poller_eq : context'.poller = context.poller :=
  akin.eq_of Context.poller fun _ => rfl

theorem data_eq : context'.data = context.data :=
  akin.eq_of Context.data fun _ => rfl

end Akin

@[simp]
theorem withJournal_registry (context : Context host) (journal : Array Log.Entry) :
    (context.withJournal journal).registry = context.registry :=
  rfl

@[simp]
theorem withJournal_cache (context : Context host) (journal : Array Log.Entry) :
    (context.withJournal journal).cache = context.cache :=
  rfl

@[simp]
theorem withJournal_watcher (context : Context host) (journal : Array Log.Entry) :
    (context.withJournal journal).watcher = context.watcher :=
  rfl

@[simp]
theorem withJournal_poller (context : Context host) (journal : Array Log.Entry) :
    (context.withJournal journal).poller = context.poller :=
  rfl

/-! ## Operations that add to the journal -/

/--
A change of the context does not look at the journal, and it adds entries at the end of it, none of
which tells of a failure.
-/
def Appends {α : Type} (change : Context host → α × Context host) : Prop :=
  ∀ context : Context host,
    ∃ entries : List Log.Entry,
      (∀ entry ∈ entries, entry.isFailure = false) ∧
      ∀ journal,
        change (context.withJournal journal) =
          ((change context).1, (change context).2.withJournal (journal ++ entries))

namespace Appends

theorem not_isFailure {message : String} (other : message ≠ "condition callback failed")
    {level : Log.Level} {fields : List (String × String)} :
    ∀ entry ∈ [(⟨level, message, fields⟩ : Log.Entry)], entry.isFailure = false := by
  intro entry member
  rw [List.mem_singleton.mp member]
  exact beq_false_of_ne other

theorem nothing {α : Type} {change : Context host → α × Context host}
    (same : ∀ (context : Context host) (journal : Array Log.Entry),
      change (context.withJournal journal) =
        ((change context).1, (change context).2.withJournal journal)) :
    Appends change :=
  fun context => ⟨[], nofun, same context⟩

theorem register (name : String) (arity : Nat) (code : host.Sensor) :
    Appends fun context : Context host => context.register name arity code := by
  intro context
  simp only [Context.register, withJournal_registry]
  cases context.registry.register ⟨name, arity, .host code⟩ with
  | error error => exact ⟨[], nofun, fun _ => rfl⟩
  | ok registry => exact ⟨[_], not_isFailure (by decide), fun _ => rfl⟩

theorem registerBuiltins : Appends fun context : Context host => context.registerBuiltins :=
  nothing fun _ _ => rfl

theorem parse (source : String) : Appends fun context : Context host => context.parse source :=
  nothing fun _ _ => rfl

theorem compile (source : String) :
    Appends fun context : Context host => context.compile source := by
  refine nothing fun context journal => ?_
  simp only [Context.compile, Context.parse, withJournal_cache, withJournal_registry]
  cases (context.cache.parse source).1 with
  | error error => rfl
  | ok parsed =>
      dsimp only [withJournal]
      cases parsed.expression.tree.check context.registry <;> rfl

theorem subscribe (source : String) (callback : host.Callback) :
    Appends fun context : Context host => context.subscribe source callback := by
  intro context
  simp only [Context.subscribe, withJournal_watcher]
  cases Token.namesIn source with
  | error error => exact ⟨[], nofun, fun _ => rfl⟩
  | ok names =>
      by_cases unloaded : context.watcher.unloaded = true
      · simp only [unloaded, if_true]
        exact ⟨[_], not_isFailure (by decide), fun _ => rfl⟩
      · simp only [unloaded]
        exact ⟨[_], not_isFailure (by decide), fun _ => rfl⟩

theorem unsubscribe (id : SubscriptionId) :
    Appends fun context : Context host => context.unsubscribe id := by
  intro context
  simp only [Context.unsubscribe, withJournal_watcher]
  by_cases removed : (context.watcher.unsubscribe id).1 = true
  · simp only [removed, if_true]
    exact ⟨[_], not_isFailure (by decide), fun _ => rfl⟩
  · simp only [removed]
    exact ⟨[], nofun, fun _ => rfl⟩

theorem bindEvent (event : String) (names : List String) :
    Appends fun context : Context host => ((), context.bindEvent event names) := by
  refine nothing fun context journal => ?_
  simp only [Context.bindEvent, withJournal_watcher]
  by_cases unloaded : context.watcher.unloaded = true
  · simp only [unloaded, if_true]
  · simp only [unloaded]
    rfl

theorem addProbe (sensor : String) (code : host.Probe) :
    Appends fun context : Context host => context.addProbe sensor code := by
  intro context
  simp only [Context.addProbe, withJournal_watcher, withJournal_poller]
  by_cases unloaded : context.watcher.unloaded = true
  · simp only [unloaded, if_true]
    exact ⟨[], nofun, fun _ => rfl⟩
  · simp only [unloaded]
    cases context.poller.add sensor code with
    | error error => exact ⟨[], nofun, fun _ => rfl⟩
    | ok poller => exact ⟨[_], not_isFailure (by decide), fun _ => rfl⟩

theorem log {message : String} (other : message ≠ "condition callback failed")
    (level : Log.Level) (fields : List (String × String)) :
    Appends fun context : Context host => ((), context.log level message fields) :=
  fun _ => ⟨[_], not_isFailure other, fun _ => rfl⟩

theorem unload : Appends fun context : Context host => ((), context.unload) := by
  intro context
  let dropped := toString context.watcher.subscriptionCount
  refine ⟨[⟨.info, "condition watcher unloaded", [("subscriptions", dropped)]⟩], ?_, fun _ => rfl⟩
  exact not_isFailure (by decide)

theorem store (data : host.Data) :
    Appends fun context : Context host => ((), { context with data }) :=
  nothing fun _ _ => rfl

theorem foldl_log (context : Context host) (changes : List (String × Value))
    (journal : Array Log.Entry) :
    changes.foldl
        (fun context (name, sample) =>
          context.log .trace "polled value changed" [("sensor", name), ("value", sample.display)])
        (context.withJournal journal) =
      context.withJournal (journal ++ changes.map Log.Entry.ofChange) := by
  induction changes generalizing journal with
  | nil => rfl
  | cons first rest induction => exact induction (journal.push (.ofChange first))

theorem observeAll (samples : List (String × Value)) :
    Appends fun context : Context host => context.observeAll samples := by
  intro context
  let observed : Context host := { context with poller := (context.poller.observeAll samples).2 }
  let entries := (context.poller.observeAll samples).1.map Log.Entry.ofChange
  refine ⟨entries, ?_, fun journal => Prod.ext rfl ?_⟩
  · intro entry member
    rcases List.mem_map.mp member with ⟨found, -, rfl⟩
    rfl
  · refine (foldl_log observed _ journal).trans ?_
    exact (congrArg (withJournal · _) (foldl_log observed _ context.journal)).symm

variable {α : Type} {change : Context host → α × Context host} (appends : Appends change)
include appends

/-- The journal grows at its end. -/
theorem grows (context : Context host) :
    context.journal.toList <+: (change context).2.journal.toList := by
  rcases appends context with ⟨entries, -, changed⟩
  have kept := congrArg (fun ended => ended.2.journal.toList) (changed context.journal)
  refine ⟨entries, ?_⟩
  exact Array.toList_appendList.symm.trans kept.symm

/-- Failures make no difference to the change, and it makes none to them. -/
theorem without (context : Context host) :
    change context.withoutFailures = ((change context).1, (change context).2.withoutFailures) := by
  rcases appends context with ⟨entries, others, changed⟩
  have kept := congrArg (fun ended => ended.2.journal) (changed context.journal)
  have journal : (change context).2.journal = context.journal ++ entries := kept
  have filtered : entries.filter (fun entry => !entry.isFailure) = entries := by
    refine List.filter_eq_self.mpr fun entry member => ?_
    rw [others entry member, Bool.not_false]
  rw [withoutFailures, changed, withoutFailures, journal]
  congr 2
  apply Array.toList_inj.mp
  rw [Array.toList_appendList, Array.toList_filter, Array.toList_filter, Array.toList_appendList,
    List.filter_append, filtered]

end Appends

/-- An entry that tells of a failure is forgotten. -/
theorem withoutFailures_log_failure
    (context : Context host) (level : Log.Level) (fields : List (String × String)) :
    (context.log level "condition callback failed" fields).withoutFailures =
      context.withoutFailures := by
  refine congrArg context.withJournal ?_
  exact Array.filter_push_of_neg (by simp [Log.Entry.isFailure]) (Array.size_push _)

end Context

end Vigil
