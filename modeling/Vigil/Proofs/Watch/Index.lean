import Vigil.Watch.Watcher

/-!
# The indices of a watcher

A watcher keeps every subscription twice: under each name that it watches, and under its number.
`Watcher.Consistent` says that the two indices tell the same story, in which order they tell it,
and that the numbers in them have been handed out.  Subscribing, unsubscribing and unloading edit
the indices name by name; the lemmas here say what these edits come to, and that they keep the
indices consistent.
-/

namespace Vigil.Watcher

variable {Callback : Type}

/-! ## Under one name -/

/-- What stands under a name without a subscription.  Nothing stands over an empty list. -/
def remaining (id : SubscriptionId) :
    Option (List (Subscription Callback)) → Option (List (Subscription Callback))
  | none => none
  | some subscriptions =>
    if (subscriptions.filter (·.id ≠ id)).isEmpty then none
    else some (subscriptions.filter (·.id ≠ id))

theorem remaining_remaining
    (id : SubscriptionId)
    (subscriptions? : Option (List (Subscription Callback))) :
    remaining id (remaining id subscriptions?) = remaining id subscriptions? := by
  cases subscriptions? with
  | none => rfl
  | some subscriptions =>
      have twice :
          (subscriptions.filter (·.id ≠ id)).filter (·.id ≠ id) =
            subscriptions.filter (·.id ≠ id) := by
        rw [List.filter_filter]
        simp only [Bool.and_self]
      by_cases empty : (subscriptions.filter (·.id ≠ id)).isEmpty = true
      · simp only [remaining, empty, if_true]
      · simp only [remaining, empty, twice, Bool.false_eq_true, if_false]

theorem getD_remaining
    (id : SubscriptionId)
    (subscriptions? : Option (List (Subscription Callback))) :
    (remaining id subscriptions?).getD [] = (subscriptions?.getD []).filter (·.id ≠ id) := by
  cases subscriptions? with
  | none => rfl
  | some subscriptions =>
      dsimp only [remaining]
      split
      · next empty => exact (List.isEmpty_iff.mp empty).symm
      · rfl

theorem remaining_ne_nil
    (id : SubscriptionId)
    (subscriptions? : Option (List (Subscription Callback))) :
    remaining id subscriptions? ≠ some [] := by
  intro left
  cases subscriptions? with
  | none => cases left
  | some subscriptions =>
      dsimp only [remaining] at left
      split at left
      · cases left
      · next inhabited =>
        refine inhabited (List.isEmpty_iff.mpr ?_)
        exact Option.some.inj left

/-! ## Edits of the index by name -/

theorem get?_enlist
    (subscription : Subscription Callback)
    (index : Table String (List (Subscription Callback)))
    (name other : String) :
    (enlist subscription index name).get? other =
      if other = name then some ((index.get? other).getD [] ++ [subscription])
      else index.get? other := by
  rw [enlist]
  split
  · next same => rw [same, Table.get?_put_self]
  · next differ => rw [Table.get?_put_ne index _ differ]

theorem get?_strike
    (id : SubscriptionId)
    (index : Table String (List (Subscription Callback)))
    (name other : String) :
    (strike id index name).get? other =
      if other = name then remaining id (index.get? other) else index.get? other := by
  rw [strike]
  cases stored : index.get? name with
  | none =>
      by_cases same : other = name
      · rw [if_pos same, same, stored]
        rfl
      · rw [if_neg same]
  | some subscriptions =>
      by_cases same : other = name
      · rw [if_pos same, same, stored]
        dsimp only [remaining]
        split
        · rw [Table.get?_erase_self]
        · rw [Table.get?_put_self]
      · rw [if_neg same]
        dsimp only
        split
        · rw [Table.get?_erase_ne index same]
        · rw [Table.get?_put_ne index _ same]

theorem get?_foldl_enlist
    (subscription : Subscription Callback)
    {names : List String} (distinct : names.Nodup)
    (index : Table String (List (Subscription Callback))) (name : String) :
    (names.foldl (enlist subscription) index).get? name =
      if name ∈ names then some ((index.get? name).getD [] ++ [subscription])
      else index.get? name := by
  induction names generalizing index with
  | nil => rfl
  | cons first rest induction =>
      rcases List.nodup_cons.mp distinct with ⟨notLater, restDistinct⟩
      rw [List.foldl_cons, induction restDistinct, get?_enlist]
      by_cases same : name = first
      · subst same
        simp [notLater]
      · simp [same]

theorem get?_foldl_strike
    (id : SubscriptionId) (names : List String)
    (index : Table String (List (Subscription Callback))) (name : String) :
    (names.foldl (strike id) index).get? name =
      if name ∈ names then remaining id (index.get? name) else index.get? name := by
  induction names generalizing index with
  | nil => rfl
  | cons first rest induction =>
      rw [List.foldl_cons, induction, get?_strike]
      by_cases same : name = first
      · subst same
        simp [remaining_remaining]
      · simp [same]

theorem mem_foldl_enlist
    {new subscription : Subscription Callback} {names : List String}
    {index : Table String (List (Subscription Callback))} {name : String}
    (listed : subscription ∈ ((names.foldl (enlist new) index).get? name).getD []) :
    subscription ∈ (index.get? name).getD [] ∨ subscription = new := by
  induction names generalizing index with
  | nil => exact .inl listed
  | cons first rest induction =>
      rcases induction listed with earlier | same
      · rw [get?_enlist] at earlier
        split at earlier
        · simpa using earlier
        · exact .inl earlier
      · exact .inr same

/-! ## What the operations do to the indices -/

variable {watcher : Watcher Callback}

/-- The numbers of the subscriptions that watch a function, oldest first. -/
def idsUnder (watcher : Watcher Callback) (name : String) : List SubscriptionId :=
  (watcher.subscribers name).map Subscription.id

theorem mem_idsUnder {id : SubscriptionId} {name : String} :
    id ∈ watcher.idsUnder name ↔ ∃ subscription ∈ watcher.subscribers name, subscription.id = id :=
  List.mem_map

section Subscribe

variable {names : List String} (callback : Callback)

theorem subscribe_of_unloaded (unloaded : watcher.unloaded = true) :
    watcher.subscribe names callback =
      (watcher.nextId, { watcher with nextId := watcher.nextId + 1 }) := by
  rw [subscribe, unloaded]
  rfl

@[simp]
theorem subscribe_id : (watcher.subscribe names callback).1 = watcher.nextId := by
  rw [subscribe]
  split <;> rfl

@[simp]
theorem nextId_subscribe :
    (watcher.subscribe names callback).2.nextId = watcher.nextId + 1 := by
  rw [subscribe]
  split <;> rfl

@[simp]
theorem unloaded_subscribe :
    (watcher.subscribe names callback).2.unloaded = watcher.unloaded := by
  rw [subscribe]
  split <;> rfl

variable (loaded : watcher.unloaded = false)
include loaded

theorem byName_subscribe (distinct : names.Nodup) (name : String) :
    (watcher.subscribe names callback).2.byName.get? name =
      if name ∈ names then some (watcher.subscribers name ++ [⟨watcher.nextId, callback⟩])
      else watcher.byName.get? name := by
  simp only [subscribe, loaded, Bool.false_eq_true, ↓reduceIte, get?_foldl_enlist _ distinct,
    subscribers]

theorem subscribers_subscribe (distinct : names.Nodup) (name : String) :
    (watcher.subscribe names callback).2.subscribers name =
      watcher.subscribers name ++
        if name ∈ names then [⟨watcher.nextId, callback⟩] else [] := by
  rw [subscribers, byName_subscribe callback loaded distinct]
  split <;> simp [subscribers]

omit loaded in
/-- Whoever watches after a subscription did so before, or is the new subscriber. -/
theorem mem_subscribers_subscribe {subscription : Subscription Callback} {name : String}
    (listed : subscription ∈ (watcher.subscribe names callback).2.subscribers name) :
    subscription ∈ watcher.subscribers name ∨ subscription.callback = callback := by
  rw [subscribe] at listed
  split at listed
  · exact .inl listed
  · rcases mem_foldl_enlist listed with earlier | rfl
    · exact .inl earlier
    · exact .inr rfl

theorem watchedNames?_subscribe (id : SubscriptionId) :
    (watcher.subscribe names callback).2.watchedNames? id =
      if id = watcher.nextId then some names else watcher.watchedNames? id := by
  simp only [subscribe, loaded, Bool.false_eq_true, ↓reduceIte, watchedNames?]
  split
  · next same => rw [same, Table.get?_put_self]
  · next differ => rw [Table.get?_put_ne _ _ differ]

end Subscribe

section Unsubscribe

variable {id : SubscriptionId} {names : List String}

theorem unsubscribe_of_unknown (unknown : watcher.watchedNames? id = none) :
    watcher.unsubscribe id = (false, watcher) := by
  rw [watchedNames?] at unknown
  rw [unsubscribe, unknown]

@[simp]
theorem nextId_unsubscribe : (watcher.unsubscribe id).2.nextId = watcher.nextId := by
  rw [unsubscribe]
  split <;> rfl

@[simp]
theorem unloaded_unsubscribe : (watcher.unsubscribe id).2.unloaded = watcher.unloaded := by
  rw [unsubscribe]
  split <;> rfl

theorem watchedNames?_unsubscribe (id other : SubscriptionId) :
    (watcher.unsubscribe id).2.watchedNames? other =
      if other = id then none else watcher.watchedNames? other := by
  cases known : watcher.watchedNames? id with
  | none =>
      rw [unsubscribe_of_unknown known]
      split
      · next same => rw [same, known]
      · rfl
  | some names =>
      rw [watchedNames?] at known
      simp only [unsubscribe, known, watchedNames?]
      split
      · next same => rw [same, Table.get?_erase_self]
      · next differ => rw [Table.get?_erase_ne _ differ]

variable (known : watcher.watchedNames? id = some names)
include known

theorem unsubscribe_of_known : (watcher.unsubscribe id).1 = true := by
  rw [watchedNames?] at known
  rw [unsubscribe, known]

theorem byName_unsubscribe (name : String) :
    (watcher.unsubscribe id).2.byName.get? name =
      if name ∈ names then remaining id (watcher.byName.get? name)
      else watcher.byName.get? name := by
  rw [watchedNames?] at known
  simp only [unsubscribe, known, get?_foldl_strike]

end Unsubscribe

/-! ## Who is live -/

theorem isLive_eq (watcher : Watcher Callback) (id : SubscriptionId) :
    watcher.isLive id = (!watcher.unloaded && (watcher.watchedNames? id).isSome) :=
  rfl

theorem isLive_subscribe {names : List String} (callback : Callback) (id : SubscriptionId) :
    (watcher.subscribe names callback).2.isLive id = true ↔
      watcher.unloaded = false ∧ (id = watcher.nextId ∨ watcher.isLive id = true) := by
  rw [isLive_eq, unloaded_subscribe, isLive_eq]
  cases unloaded : watcher.unloaded with
  | true => simp
  | false =>
      rw [watchedNames?_subscribe callback unloaded]
      by_cases new : id = watcher.nextId <;> simp [new]

theorem isLive_unsubscribe (id other : SubscriptionId) :
    (watcher.unsubscribe id).2.isLive other = true ↔
      other ≠ id ∧ watcher.isLive other = true := by
  rw [isLive_eq, unloaded_unsubscribe, watchedNames?_unsubscribe, isLive_eq]
  by_cases same : other = id <;> simp [same]

theorem isLive_unload (id : SubscriptionId) : watcher.unload.isLive id = false :=
  rfl

/-! ## Consistency -/

/-- The two indices of a watcher fit together. -/
structure Consistent (watcher : Watcher Callback) : Prop where
  /-- A subscription stands under a name where it watches that name. -/
  listed_iff : ∀ id name,
    id ∈ watcher.idsUnder name ↔ ∃ names, watcher.watchedNames? id = some names ∧ name ∈ names
  /-- Subscriptions stand in the order in which they were made, each once. -/
  ordered : ∀ name, (watcher.idsUnder name).Pairwise (· < ·)
  distinct : ∀ id names, watcher.watchedNames? id = some names → names.Nodup
  inhabited : ∀ name, watcher.byName.get? name ≠ some []
  cleared : watcher.unloaded = true → watcher.byName = .empty ∧ watcher.byId = .empty
  issued : ∀ id names, watcher.watchedNames? id = some names → id < watcher.nextId

theorem empty_consistent : (empty : Watcher Callback).Consistent where
  listed_iff := by
    intro id name
    constructor
    · intro member
      cases member
    · rintro ⟨names, known, -⟩
      cases known
  ordered := fun name => .nil
  distinct := by
    intro id names known
    cases known
  inhabited := by
    intro name stored
    cases stored
  cleared := by
    intro unloaded
    cases unloaded
  issued := by
    intro id names known
    cases known

theorem unload_consistent : watcher.unload.Consistent where
  listed_iff := empty_consistent.listed_iff
  ordered := empty_consistent.ordered
  distinct := by
    intro id names known
    cases known
  inhabited := empty_consistent.inhabited
  cleared := fun _ => ⟨rfl, rfl⟩
  issued := by
    intro id names known
    cases known

namespace Consistent

variable (consistent : watcher.Consistent)
include consistent

theorem watchedNames?_of_unloaded (unloaded : watcher.unloaded = true) (id : SubscriptionId) :
    watcher.watchedNames? id = none := by
  rw [watchedNames?, (consistent.cleared unloaded).2, Table.get?_empty]

theorem loaded_of_watched {name : String} (watched : watcher.subscribers name ≠ []) :
    watcher.unloaded = false := by
  cases unloaded : watcher.unloaded with
  | false => rfl
  | true =>
      refine absurd ?_ watched
      rw [subscribers, (consistent.cleared unloaded).1, Table.get?_empty]
      rfl

/-- A subscription is live where its names are kept. -/
theorem isLive_iff {id : SubscriptionId} :
    watcher.isLive id = true ↔ ∃ names, watcher.watchedNames? id = some names := by
  unfold isLive Table.contains
  rw [Bool.and_eq_true, Option.isSome_iff_exists]
  constructor
  · rintro ⟨-, known⟩
    exact known
  · rintro ⟨names, known⟩
    refine ⟨?_, names, known⟩
    cases unloaded : watcher.unloaded with
    | false => rfl
    | true =>
        rw [consistent.watchedNames?_of_unloaded unloaded] at known
        cases known

/-- A subscription stands under a name once if it watches that name. -/
theorem count_idsUnder (id : SubscriptionId) (name : String) :
    (watcher.idsUnder name).count id =
      if name ∈ (watcher.watchedNames? id).getD [] then 1 else 0 := by
  have once : (watcher.idsUnder name).Nodup := (consistent.ordered name).imp Nat.ne_of_lt
  have listed : id ∈ watcher.idsUnder name ↔ name ∈ (watcher.watchedNames? id).getD [] := by
    rw [consistent.listed_iff]
    cases watcher.watchedNames? id <;> simp
  rw [once.count]
  simp only [listed]

theorem isLive_of_mem {id : SubscriptionId} {name : String} (member : id ∈ watcher.idsUnder name) :
    watcher.isLive id = true := by
  rcases (consistent.listed_iff id name).mp member with ⟨names, known, -⟩
  exact consistent.isLive_iff.mpr ⟨names, known⟩

theorem lt_nextId {id : SubscriptionId} {name : String} (member : id ∈ watcher.idsUnder name) :
    id < watcher.nextId := by
  rcases (consistent.listed_iff id name).mp member with ⟨names, known, -⟩
  exact consistent.issued id names known

/-- Unsubscribing takes a subscription out from under every name. -/
theorem subscribers_unsubscribe (id : SubscriptionId) (name : String) :
    (watcher.unsubscribe id).2.subscribers name =
      (watcher.subscribers name).filter (·.id ≠ id) := by
  have untouched (absent : id ∉ watcher.idsUnder name) :
      (watcher.subscribers name).filter (·.id ≠ id) = watcher.subscribers name := by
    refine List.filter_eq_self.mpr fun subscription listed => ?_
    refine decide_eq_true fun same => absent ?_
    exact mem_idsUnder.mpr ⟨subscription, listed, same⟩
  cases known : watcher.watchedNames? id with
  | none =>
      rw [unsubscribe_of_unknown known, untouched]
      intro member
      rcases (consistent.listed_iff id name).mp member with ⟨names, watched, -⟩
      rw [known] at watched
      cases watched
  | some names =>
      rw [subscribers, byName_unsubscribe known]
      split
      · exact getD_remaining id (watcher.byName.get? name)
      · next absent =>
        refine (untouched fun member => ?_).symm
        rcases (consistent.listed_iff id name).mp member with ⟨watched, same, listed⟩
        rw [known] at same
        cases same
        exact absent listed

theorem idsUnder_unsubscribe (id : SubscriptionId) (name : String) :
    (watcher.unsubscribe id).2.idsUnder name = (watcher.idsUnder name).filter (· ≠ id) := by
  rw [idsUnder, consistent.subscribers_unsubscribe, idsUnder, List.filter_map]
  rfl

/-! Each operation keeps the indices consistent. -/

theorem subscribe {names : List String} (distinct : names.Nodup) (callback : Callback) :
    (watcher.subscribe names callback).2.Consistent := by
  cases unloaded : watcher.unloaded with
  | true =>
      rw [subscribe_of_unloaded callback unloaded]
      exact
        { listed_iff := consistent.listed_iff
          ordered := consistent.ordered
          distinct := consistent.distinct
          inhabited := consistent.inhabited
          cleared := consistent.cleared
          issued := fun id names known => Nat.lt_succ_of_lt (consistent.issued id names known) }
  | false =>
      have listed (name : String) :
          (watcher.subscribe names callback).2.idsUnder name =
            watcher.idsUnder name ++ if name ∈ names then [watcher.nextId] else [] := by
        rw [idsUnder, subscribers_subscribe callback unloaded distinct, List.map_append, idsUnder]
        split <;> rfl
      have watched (id : SubscriptionId) :
          (watcher.subscribe names callback).2.watchedNames? id =
            if id = watcher.nextId then some names else watcher.watchedNames? id :=
        watchedNames?_subscribe callback unloaded id
      exact
        { listed_iff := by
            intro id name
            rw [listed, watched, List.mem_append, consistent.listed_iff]
            by_cases new : id = watcher.nextId
            · have unknown : ¬∃ names, watcher.watchedNames? id = some names ∧ name ∈ names := by
                rintro ⟨names, known, -⟩
                exact Nat.lt_irrefl id (new ▸ consistent.issued id names known)
              simp [new, new ▸ unknown]
            · rw [if_neg new]
              split <;> simp [new]
          ordered := by
            intro name
            rw [listed, List.pairwise_append]
            refine ⟨consistent.ordered name, ?_, ?_⟩
            · split <;> simp
            · intro id member next last
              split at last
              · rw [List.mem_singleton.mp last]
                exact consistent.lt_nextId member
              · cases last
          distinct := by
            intro id others known
            rw [watched] at known
            split at known
            · cases known
              exact distinct
            · exact consistent.distinct id others known
          inhabited := by
            intro name stored
            rw [byName_subscribe callback unloaded distinct] at stored
            split at stored
            · simp at stored
            · exact consistent.inhabited name stored
          cleared := by
            intro cleared
            rw [unloaded_subscribe, unloaded] at cleared
            cases cleared
          issued := by
            intro id others known
            rw [watched] at known
            rw [nextId_subscribe]
            split at known
            · next new => exact new ▸ Nat.lt_succ_self watcher.nextId
            · exact Nat.lt_succ_of_lt (consistent.issued id others known) }

theorem unsubscribe (id : SubscriptionId) : (watcher.unsubscribe id).2.Consistent where
  listed_iff := by
    intro other name
    rw [consistent.idsUnder_unsubscribe, watchedNames?_unsubscribe, List.mem_filter,
      consistent.listed_iff]
    by_cases same : other = id
    · simp [same]
    · simp [same]
  ordered := by
    intro name
    rw [consistent.idsUnder_unsubscribe]
    exact (consistent.ordered name).filter _
  distinct := by
    intro other names known
    rw [watchedNames?_unsubscribe] at known
    split at known
    · cases known
    · exact consistent.distinct other names known
  inhabited := by
    intro name stored
    cases known : watcher.watchedNames? id with
    | none =>
        rw [unsubscribe_of_unknown known] at stored
        exact consistent.inhabited name stored
    | some names =>
        rw [byName_unsubscribe known] at stored
        split at stored
        · exact remaining_ne_nil id _ stored
        · exact consistent.inhabited name stored
  cleared := by
    intro unloaded
    rw [unloaded_unsubscribe] at unloaded
    rw [unsubscribe_of_unknown (consistent.watchedNames?_of_unloaded unloaded id)]
    exact consistent.cleared unloaded
  issued := by
    intro other names known
    rw [watchedNames?_unsubscribe] at known
    rw [nextId_unsubscribe]
    split at known
    · cases known
    · exact consistent.issued other names known

end Consistent

end Vigil.Watcher
