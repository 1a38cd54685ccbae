import Mathlib.Data.List.Perm.Basic
import Vigil.Proofs.Watch.History

/-!
# Removing subscriptions

Unsubscribing goes through the names that one index keeps for a subscription, and edits the other
index under each of them.  Where the indices are consistent this comes to taking the subscription
out from under every name at once, so it takes out nothing else, and two removals may be done in
either order.

Tables keep their keys in order, and none of these edits moves a key.  So the indices are compared
as they stand: `Table.eq_of_sublist` says that two tables with the same values are equal if the keys
of both stand in the order of a third one.  In this sense unsubscribing undoes a subscription.
-/

namespace Vigil

/-! ## Tables that keep their order -/

namespace Table

variable {κ ν : Type} [DecidableEq κ] {table other larger : Table κ ν} {key : κ} {value : ν}

/-- The entries of a table are its keys with their values. -/
theorem entries_eq (table : Table κ ν) :
    table.entries = table.keys.filterMap fun key => (table.get? key).map (Prod.mk key) := by
  rw [keys, List.filterMap_map]
  refine List.filterMap_some.symm.trans (List.filterMap_congr fun entry listed => ?_)
  rw [Function.comp_apply, get?_of_mem listed]
  rfl

/-- Tables in which all keys have the same values have the same keys. -/
theorem keys_perm (alike : ∀ key, table.get? key = other.get? key) :
    table.keys.Perm other.keys := by
  refine (List.perm_ext_iff_of_nodup table.distinct other.distinct).mpr fun key => ?_
  rw [← keys, ← keys, mem_keys, mem_keys, alike]

/-- Two tables are equal if their keys have the same values, in the order of a third table. -/
theorem eq_of_sublist
    (first : table.keys.Sublist larger.keys)
    (second : other.keys.Sublist larger.keys)
    (alike : ∀ key, table.get? key = other.get? key) : table = other := by
  have order : table.keys = other.keys :=
    (List.Nodup.perm_iff_eq_of_sublist larger.distinct first second).mp (keys_perm alike)
  have entries : table.entries = other.entries := by
    rw [entries_eq, entries_eq, order]
    simp only [alike]
  cases table
  cases other
  rwa [mk.injEq]

theorem keys_put_of_known (known : table.get? key ≠ none) (value : ν) :
    (table.put key value).keys = table.keys := by
  have present : key ∈ table.entries.map Prod.fst :=
    mem_keys.mpr (Option.ne_none_iff_exists'.mp known)
  rw [put, dif_pos present]
  exact keys_replaceIn key value table.entries

theorem keys_sublist_put (table : Table κ ν) (key : κ) (value : ν) :
    table.keys.Sublist (table.put key value).keys := by
  by_cases absent : table.get? key = none
  · rw [keys, keys, entries_put_of_absent absent, List.map_append]
    exact List.sublist_append_left _ _
  · exact (keys_put_of_known absent value).symm ▸ List.Sublist.refl _

theorem keys_erase_sublist (table : Table κ ν) (key : κ) :
    (table.erase key).keys.Sublist table.keys :=
  List.filter_sublist.map Prod.fst

end Table

namespace Watcher

variable {Callback : Type} {watcher other : Watcher Callback}

/-! ## Names and numbers keep their places -/

theorem keys_strike
    (id : SubscriptionId)
    (index : Table String (List (Subscription Callback)))
    (name : String) : (strike id index name).keys.Sublist index.keys := by
  rw [strike]
  split
  · exact List.Sublist.refl _
  · next stored =>
    dsimp only
    split
    · exact index.keys_erase_sublist name
    · have known : index.get? name ≠ none := by
        rw [stored]
        exact Option.some_ne_none _
      exact (Table.keys_put_of_known known _).symm ▸ List.Sublist.refl _

theorem keys_foldl_strike
    (id : SubscriptionId) (names : List String)
    (index : Table String (List (Subscription Callback))) :
    (names.foldl (strike id) index).keys.Sublist index.keys := by
  induction names generalizing index with
  | nil => exact List.Sublist.refl _
  | cons name rest induction => exact (induction _).trans (keys_strike id index name)

theorem keys_foldl_enlist
    (subscription : Subscription Callback) (names : List String)
    (index : Table String (List (Subscription Callback))) :
    index.keys.Sublist (names.foldl (enlist subscription) index).keys := by
  induction names generalizing index with
  | nil => exact List.Sublist.refl _
  | cons name rest induction => exact (index.keys_sublist_put name _).trans (induction _)

theorem keys_byName_unsubscribe (id : SubscriptionId) :
    (watcher.unsubscribe id).2.byName.keys.Sublist watcher.byName.keys := by
  rw [unsubscribe]
  split
  · exact List.Sublist.refl _
  · exact keys_foldl_strike id _ _

theorem keys_byId_unsubscribe (id : SubscriptionId) :
    (watcher.unsubscribe id).2.byId.keys.Sublist watcher.byId.keys := by
  rw [unsubscribe]
  split
  · exact List.Sublist.refl _
  · exact watcher.byId.keys_erase_sublist id

theorem keys_byName_subscribe (names : List String) (callback : Callback) :
    watcher.byName.keys.Sublist (watcher.subscribe names callback).2.byName.keys := by
  rw [subscribe]
  split
  · exact List.Sublist.refl _
  · exact keys_foldl_enlist _ names _

theorem keys_byId_subscribe (names : List String) (callback : Callback) :
    watcher.byId.keys.Sublist (watcher.subscribe names callback).2.byId.keys := by
  rw [subscribe]
  split
  · exact List.Sublist.refl _
  · exact watcher.byId.keys_sublist_put _ names

/-! ## Removals -/

theorem eq_of_indices (byName : watcher.byName = other.byName) (byId : watcher.byId = other.byId)
    (unloaded : watcher.unloaded = other.unloaded) (nextId : watcher.nextId = other.nextId) :
    watcher = other := by
  cases watcher
  cases other
  rw [mk.injEq]
  exact ⟨byName, byId, unloaded, nextId⟩

namespace Consistent

variable (consistent : watcher.Consistent)
include consistent

/-- Nothing stands over an empty list, so the subscribers of a name settle what stands there. -/
theorem byName_alike (consistent' : other.Consistent) {name : String}
    (same : watcher.subscribers name = other.subscribers name) :
    watcher.byName.get? name = other.byName.get? name := by
  rw [subscribers, subscribers] at same
  cases here : watcher.byName.get? name with
  | none =>
      cases there : other.byName.get? name with
      | none => rfl
      | some others =>
          rw [here, there] at same
          obtain rfl : [] = others := same
          exact absurd there (consistent'.inhabited name)
  | some subscriptions =>
      cases there : other.byName.get? name with
      | none =>
          rw [here, there] at same
          obtain rfl : subscriptions = [] := same
          exact absurd here (consistent.inhabited name)
      | some others =>
          rw [here, there] at same
          exact congrArg some same

/-- It makes no difference which of two subscriptions is removed first. -/
theorem unsubscribe_comm (first second : SubscriptionId) :
    ((watcher.unsubscribe first).2.unsubscribe second).2 =
      ((watcher.unsubscribe second).2.unsubscribe first).2 := by
  have afterFirst := consistent.unsubscribe first
  have afterSecond := consistent.unsubscribe second
  refine eq_of_indices ?byName ?byId (by simp) (by simp)
  case byName =>
    refine Table.eq_of_sublist
      ((keys_byName_unsubscribe second).trans (keys_byName_unsubscribe first))
      ((keys_byName_unsubscribe first).trans (keys_byName_unsubscribe second)) fun name => ?_
    refine (afterFirst.unsubscribe second).byName_alike (afterSecond.unsubscribe first) ?_
    rw [afterFirst.subscribers_unsubscribe, afterSecond.subscribers_unsubscribe,
      consistent.subscribers_unsubscribe, consistent.subscribers_unsubscribe, List.filter_comm]
  case byId =>
    refine Table.eq_of_sublist
      ((keys_byId_unsubscribe second).trans (keys_byId_unsubscribe first))
      ((keys_byId_unsubscribe first).trans (keys_byId_unsubscribe second)) fun id => ?_
    show watchedNames? _ id = watchedNames? _ id
    simp only [watchedNames?_unsubscribe]
    split <;> split <;> rfl

/-- Removing a subscription that was just made leaves both indices as they were before. -/
theorem unsubscribe_subscribe {names : List String} (distinct : names.Nodup)
    (callback : Callback) :
    ((watcher.subscribe names callback).2.unsubscribe watcher.nextId).2 =
      { watcher with nextId := watcher.nextId + 1 } := by
  have subscribed := consistent.subscribe distinct callback
  have unknown : watcher.watchedNames? watcher.nextId = none := by
    rw [Option.eq_none_iff_forall_ne_some]
    intro names known
    exact Nat.lt_irrefl _ (consistent.issued _ names known)
  by_cases unloaded : watcher.unloaded = true
  · rw [subscribe_of_unloaded callback unloaded, unsubscribe_of_unknown]
    exact unknown
  · have loaded : watcher.unloaded = false := Bool.eq_false_iff.mpr unloaded
    refine eq_of_indices ?byName ?byId (by simp) (by simp)
    case byName =>
      show _ = watcher.byName
      refine Table.eq_of_sublist (keys_byName_unsubscribe _)
        (keys_byName_subscribe names callback) fun name => ?_
      refine (subscribed.unsubscribe _).byName_alike consistent ?_
      have others : (watcher.subscribers name).filter (·.id ≠ watcher.nextId) =
          watcher.subscribers name := by
        refine List.filter_eq_self.mpr fun subscription listed => decide_eq_true ?_
        exact Nat.ne_of_lt (consistent.lt_nextId (mem_idsUnder.mpr ⟨_, listed, rfl⟩))
      rw [subscribed.subscribers_unsubscribe, subscribers_subscribe callback loaded distinct,
        List.filter_append, others]
      split <;> simp
    case byId =>
      show _ = watcher.byId
      refine Table.eq_of_sublist (keys_byId_unsubscribe _)
        (keys_byId_subscribe names callback) fun id => ?_
      show watchedNames? _ id = watchedNames? watcher id
      rw [watchedNames?_unsubscribe, watchedNames?_subscribe callback loaded]
      split
      · next same => rw [same, unknown]
      · rfl

end Consistent

end Watcher

namespace Hosting

variable {host : Host}

/-- Unsubscribing in a world is unsubscribing from its watcher. -/
theorem World.unsubscribe_watcher (world : World host) (id : SubscriptionId) :
    (world.unsubscribe id).1 = (world.watcher.unsubscribe id).1 ∧
      (world.unsubscribe id).2.watcher = (world.watcher.unsubscribe id).2 := by
  cases known : world.watcher.watchedNames? id with
  | none =>
      rw [World.unsubscribe, Context.unsubscribe_of_unknown known,
        Watcher.unsubscribe_of_unknown known]
      exact ⟨rfl, rfl⟩
  | some names =>
      rcases Context.unsubscribe_of_known known with ⟨journal, unsubscribed⟩
      rw [World.unsubscribe, unsubscribed, Watcher.unsubscribe_of_known known]
      exact ⟨rfl, rfl⟩

theorem World.unsubscribe_of_unknown {world : World host} {id : SubscriptionId}
    (unknown : world.watcher.watchedNames? id = none) : world.unsubscribe id = (false, world) := by
  rw [World.unsubscribe, Context.unsubscribe_of_unknown unknown]
  rfl

/-- Where a text consists of tokens, subscribing to it succeeds. -/
theorem World.subscribe_of_tokenize {source : String} {tokens : List Token}
    (tokenized : Token.tokenize source = .ok tokens) (world : World host)
    (callback : host.Callback) :
    ∃ after,
      world.subscribe source callback = (.ok world.watcher.nextId, after) ∧
        after.watcher =
          (world.watcher.subscribe (Token.functionNames tokens) callback).2 := by
  have found : Token.namesIn source = .ok (Token.functionNames tokens) := by
    rw [Token.namesIn, tokenized]
    rfl
  rcases Context.subscribe_of_ok found world.context callback with ⟨journal, subscribed⟩
  rw [World.subscribe, subscribed]
  exact ⟨_, rfl, rfl⟩

/--
In every reachable world unsubscribing removes a subscription and nothing else.  It tells whether
there was one; afterwards the subscription is gone from every name, the others watch what they did,
and under every name they stand as before.  Of two subscriptions either may be removed first, a
second removal changes nothing, and removing a subscription that was just made restores both
indices, with all their entries and in their order.
-/
theorem unsubscribing_is_exact {world : World host} (reachable : world.Reachable) :
    (∀ id, (world.unsubscribe id).1 = world.watcher.isLive id) ∧
    (∀ id name,
      id ∉ (world.unsubscribe id).2.watcher.idsUnder name ∧
        (world.unsubscribe id).2.watcher.subscribers name =
          (world.watcher.subscribers name).filter (·.id ≠ id)) ∧
    (∀ id other,
      (world.unsubscribe id).2.watcher.watchedNames? other =
        if other = id then none else world.watcher.watchedNames? other) ∧
    (∀ first second,
      ((world.unsubscribe first).2.unsubscribe second).2.watcher =
        ((world.unsubscribe second).2.unsubscribe first).2.watcher) ∧
    (∀ id, (world.unsubscribe id).2.unsubscribe id = (false, (world.unsubscribe id).2)) ∧
    ∀ source tokens callback, Token.tokenize source = .ok tokens →
      ∃ id subscribed,
        world.subscribe source callback = (.ok id, subscribed) ∧
          (subscribed.unsubscribe id).2.watcher.byName = world.watcher.byName ∧
          (subscribed.unsubscribe id).2.watcher.byId = world.watcher.byId := by
  have consistent := reachable.faithful.consistent
  refine ⟨?answer, ?names, ?others, ?order, ?again, ?undone⟩
  case answer =>
    intro id
    rw [(world.unsubscribe_watcher id).1]
    cases known : world.watcher.watchedNames? id with
    | none =>
        rw [Watcher.unsubscribe_of_unknown known, Watcher.isLive_eq, known]
        exact (Bool.and_false _).symm
    | some names =>
        rw [Watcher.unsubscribe_of_known known]
        exact (consistent.isLive_iff.mpr ⟨names, known⟩).symm
  case names =>
    intro id name
    rw [(world.unsubscribe_watcher id).2, consistent.idsUnder_unsubscribe]
    exact ⟨by simp, consistent.subscribers_unsubscribe id name⟩
  case others =>
    intro id other
    rw [(world.unsubscribe_watcher id).2, Watcher.watchedNames?_unsubscribe]
  case order =>
    intro first second
    rw [(World.unsubscribe_watcher _ second).2, (World.unsubscribe_watcher _ first).2,
      (World.unsubscribe_watcher _ first).2, (World.unsubscribe_watcher _ second).2]
    exact consistent.unsubscribe_comm first second
  case again =>
    intro id
    refine World.unsubscribe_of_unknown ?_
    rw [(world.unsubscribe_watcher id).2, Watcher.watchedNames?_unsubscribe, if_pos rfl]
  case undone =>
    intro source tokens callback tokenized
    rcases World.subscribe_of_tokenize tokenized world callback with
      ⟨after, subscribed, watcher⟩
    refine ⟨_, after, subscribed, ?_⟩
    have distinct : (Token.functionNames tokens).Nodup := nodup_eraseDups _
    rw [(after.unsubscribe_watcher _).2, watcher,
      consistent.unsubscribe_subscribe distinct callback]
    exact ⟨rfl, rfl⟩

/-- Two subscriptions are left of four; a fifth, and one that watches nothing, come and go. -/
theorem unsubscribing_is_exact_meddled :
    (Errand.meddled.unsubscribe 1).1 = false ∧ (Errand.meddled.unsubscribe 2).1 = true ∧
    Errand.meddled.watcher.idsUnder "f" = [2, 4] ∧
    2 ∉ (Errand.meddled.unsubscribe 2).2.watcher.idsUnder "f" ∧
    (Errand.meddled.unsubscribe 2).2.unsubscribe 2 =
      (false, (Errand.meddled.unsubscribe 2).2) ∧
    (∃ id subscribed,
      Errand.meddled.subscribe "f(g() + g())" .rest = (.ok id, subscribed) ∧
        (subscribed.unsubscribe id).2.watcher.byName = Errand.meddled.watcher.byName) ∧
    ∃ id subscribed,
      Errand.meddled.subscribe "1" .rest = (.ok id, subscribed) ∧
        (subscribed.unsubscribe id).2.watcher.byName = Errand.meddled.watcher.byName := by
  have meddled : Errand.meddled.Reachable := Errand.waiting_reachable.run Errand.program 2 _
  rcases unsubscribing_is_exact meddled with ⟨answers, names, -, -, again, undone⟩
  have calls : Token.tokenize "f(g() + g())" = .ok
      [⟨.function, "f", ⟨0, 1⟩⟩, ⟨.leftParen, "(", ⟨1, 2⟩⟩, ⟨.function, "g", ⟨2, 3⟩⟩,
        ⟨.leftParen, "(", ⟨3, 4⟩⟩, ⟨.rightParen, ")", ⟨4, 5⟩⟩, ⟨.operator .add, "+", ⟨6, 7⟩⟩,
        ⟨.function, "g", ⟨8, 9⟩⟩, ⟨.leftParen, "(", ⟨9, 10⟩⟩, ⟨.rightParen, ")", ⟨10, 11⟩⟩,
        ⟨.rightParen, ")", ⟨11, 12⟩⟩] :=
    eq_ok_of_toOption (by decide +kernel)
  have constant : Token.tokenize "1" = .ok [⟨.number, "1", ⟨0, 1⟩⟩] :=
    eq_ok_of_toOption (by decide +kernel)
  obtain ⟨first, made, subscribed, restored, -⟩ := undone _ _ Errand.rest calls
  obtain ⟨second, made', subscribed', restored', -⟩ := undone _ _ Errand.rest constant
  exact ⟨(answers 1).trans (by decide +kernel), (answers 2).trans (by decide +kernel),
    by decide +kernel, (names 2 "f").1, again 2, ⟨first, made, subscribed, restored⟩,
    ⟨second, made', subscribed', restored'⟩⟩

end Hosting

end Vigil
