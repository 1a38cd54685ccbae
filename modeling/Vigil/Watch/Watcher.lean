import Vigil.Table

/-!
# Watchers

A watcher remembers who wants to know when a function may have changed. A subscription watches a
list of functions; the watcher keeps it under each of them, for delivery, and keeps the list
under the subscription, for removal. Subscriptions are numbered from one on, and no number is
given twice. A watcher that has been unloaded keeps nothing any more.
-/

namespace Vigil

/--
The number of a subscription. Each context numbers its own subscriptions, and numbers do not run
out: that a counter of 64 bits, which all contexts of a process may share, would begin again after
its last number is left out.
-/
abbrev SubscriptionId : Type := Nat

/-- How a subscription is named in reports. -/
def SubscriptionId.label (id : SubscriptionId) : String :=
  "#" ++ toString (id : Nat)

/-- The number of a subscription can be read off behind the mark. -/
theorem SubscriptionId.read_label (id : SubscriptionId) :
    Nat.ofDigitChars 10 (id.label.toList.drop 1) 0 = id := by
  rw [label, String.toList_append, Nat.toString_eq_repr, Nat.toList_repr]
  exact Nat.ofDigitChars_ten_toDigits

/-- Reports tell subscriptions apart. -/
theorem SubscriptionId.label_injective {first second : SubscriptionId}
    (same : first.label = second.label) : first = second := by
  rw [← read_label first, same, read_label]

/-- A subscription as it stands under the name of a function. -/
structure Subscription (Callback : Type) where
  id : SubscriptionId
  callback : Callback

/--
The subscriptions of a context, by function and by number. `nextId` is larger than every number
that has been given; it grows without bound and never begins again.
-/
structure Watcher (Callback : Type) where
  byName : Table String (List (Subscription Callback))
  byId : Table SubscriptionId (List String)
  unloaded : Bool
  nextId : SubscriptionId

namespace Watcher

variable {Callback : Type}

/-- A watcher without subscriptions. -/
def empty : Watcher Callback where
  byName := .empty
  byId := .empty
  unloaded := false
  nextId := 1

/-- Whether a subscription is still to be notified. -/
def isLive (watcher : Watcher Callback) (id : SubscriptionId) : Bool :=
  !watcher.unloaded && watcher.byId.contains id

/-- The subscriptions that watch a function, oldest first. -/
def subscribers (watcher : Watcher Callback) (name : String) : List (Subscription Callback) :=
  (watcher.byName.get? name).getD []

/-- The functions that a subscription watches. -/
def watchedNames? (watcher : Watcher Callback) (id : SubscriptionId) : Option (List String) :=
  watcher.byId.get? id

/-- The number of subscriptions that watch a function. -/
def subscriberCount (watcher : Watcher Callback) (name : String) : Nat :=
  (watcher.subscribers name).length

/-- The number of subscriptions. -/
def subscriptionCount (watcher : Watcher Callback) : Nat :=
  watcher.byId.size

/-- Put a subscription under a name, after those that are there. -/
def enlist
    (subscription : Subscription Callback)
    (index : Table String (List (Subscription Callback)))
    (name : String) : Table String (List (Subscription Callback)) :=
  index.put name ((index.get? name).getD [] ++ [subscription])

/-- Take a subscription away from under a name, and the name too if it was the last one. -/
def strike
    (id : SubscriptionId)
    (index : Table String (List (Subscription Callback)))
    (name : String) : Table String (List (Subscription Callback)) :=
  match index.get? name with
  | none => index
  | some subscriptions =>
    let remaining := subscriptions.filter (·.id ≠ id)
    if remaining.isEmpty then index.erase name else index.put name remaining

/--
Watch some functions. The number is a new one in every case, but a watcher that has been
unloaded does not keep the subscription.
-/
def subscribe
    (watcher : Watcher Callback)
    (names : List String)
    (callback : Callback) : SubscriptionId × Watcher Callback :=
  let id := watcher.nextId
  if watcher.unloaded then
    (id, { watcher with nextId := id + 1 })
  else
    (id,
      { watcher with
        byName := names.foldl (enlist ⟨id, callback⟩) watcher.byName
        byId := watcher.byId.put id names
        nextId := id + 1 })

/-- Remove a subscription, and tell whether there was one. -/
def unsubscribe (watcher : Watcher Callback) (id : SubscriptionId) : Bool × Watcher Callback :=
  match watcher.byId.get? id with
  | none => (false, watcher)
  | some names =>
    (true,
      { watcher with
        byName := names.foldl (strike id) watcher.byName
        byId := watcher.byId.erase id })

/-- Drop every subscription for good. -/
def unload (watcher : Watcher Callback) : Watcher Callback :=
  { watcher with
    byName := .empty
    byId := .empty
    unloaded := true }

/-- How a watcher is shown for inspection. -/
def inspect (watcher : Watcher Callback) : String :=
  "Watcher \x7b subscriptions: " ++ toString watcher.subscriptionCount ++ ", names: " ++
    toString watcher.byName.size ++ ", unloaded: " ++
    (if watcher.unloaded then "true" else "false") ++ " \x7d"

end Watcher

end Vigil
