import Mathlib.Data.List.DropRight
import Vigil.Proofs.Watch.Bindings
import Vigil.Proofs.Watch.Removal

/-!
# Binding an event again and again

Bindings are made one at a time, and each looks only at the names that its event touches already.
All together they come to the same as if the names of an event had been collected first and their
repetitions removed afterwards, and clearing the bindings starts this anew.  So a binding that has
been made once has no effect when it is made again, and bindings of different events do not meddle
with each other.

A history is a list of operations, oldest first.  Bindings that were made in another order are
compared by what the events touch, since a table keeps the order in which events were bound first.
-/

namespace Vigil

/-- Tables in which all keys have the same values are of the same size. -/
theorem Table.size_eq {κ ν : Type} [DecidableEq κ] {table other : Table κ ν}
    (alike : ∀ key, table.get? key = other.get? key) : table.size = other.size := by
  have same := (keys_perm alike).length_eq
  rwa [keys, keys, List.length_map, List.length_map] at same

namespace EventBindings

variable {bindings others : EventBindings} {event : String} {names known : List String}

/-! ## One binding -/

theorem merge_of_subset (subset : ∀ name ∈ names, name ∈ known) : merge known names = known := by
  induction names with
  | nil => rfl
  | cons name rest induction =>
      rw [List.forall_mem_cons] at subset
      rw [merge, if_pos subset.1]
      exact induction subset.2

theorem touches?_bind (bindings : EventBindings) (event : String) (names : List String)
    (other : String) :
    (bindings.bind event names).touches? other =
      if other = event then some (merge ((bindings.touches? event).getD []) names)
      else bindings.touches? other := by
  rw [touches?, bind]
  split
  · next same =>
    rw [same, Table.get?_put_self]
    rfl
  · next differ => exact Table.get?_put_ne bindings _ differ

/-- An event that touches all names of a binding is left as it is. -/
theorem bind_of_known (bound : bindings.touches? event = some known)
    (subset : ∀ name ∈ names, name ∈ known) : bindings.bind event names = bindings := by
  rw [touches?] at bound
  rw [bind, bound, Option.getD_some, merge_of_subset subset]
  exact Table.put_of_get? bound

/-- A binding that is among those that were made has no effect any more. -/
theorem bind_of_mem {binding : EventSetting} {made : List EventSetting} (member : binding ∈ made) :
    (bindAll .empty made).bind binding.name binding.touches = bindAll .empty made := by
  have bound := touches?_bindAll binding.name made
  rw [if_pos (List.mem_map_of_mem member)] at bound
  refine bind_of_known bound fun name touched => ?_
  refine List.mem_eraseDups.mpr (List.mem_flatMap.mpr ⟨binding, ?_, touched⟩)
  exact List.mem_filter.mpr ⟨member, decide_eq_true rfl⟩

/-! ## Histories -/

/-- What can be done with bindings. -/
inductive Operation where
  | bind (binding : EventSetting)
  | clear
deriving DecidableEq

/-- The binding that is made. -/
def Operation.binding? : Operation → Option EventSetting
  | bind binding => some binding
  | clear => none

/-- Do something with bindings. -/
def perform (bindings : EventBindings) : Operation → EventBindings
  | .bind binding => bindings.bind binding.name binding.touches
  | .clear => bindings.clear

/-- The bindings after some operations. -/
def afterAll (bindings : EventBindings) (operations : List Operation) : EventBindings :=
  operations.foldl perform bindings

/-- The bindings that are made after the last clearing. -/
def sinceCleared (operations : List Operation) : List EventSetting :=
  (operations.rtakeWhile (· ≠ .clear)).filterMap Operation.binding?

theorem afterAll_append (bindings : EventBindings) (operations later : List Operation) :
    bindings.afterAll (operations ++ later) = (bindings.afterAll operations).afterAll later :=
  List.foldl_append

theorem sinceCleared_bind (earlier : List Operation) (last : EventSetting) :
    sinceCleared (earlier ++ [.bind last]) = sinceCleared earlier ++ [last] := by
  rw [sinceCleared, List.rtakeWhile_concat_pos _ _ _ (by simp), List.filterMap_append]
  rfl

theorem sinceCleared_clear (earlier : List Operation) :
    sinceCleared (earlier ++ [.clear]) = [] := by
  rw [sinceCleared, List.rtakeWhile_concat_neg _ _ _ (by simp)]
  rfl

/-- What was done before the last clearing makes no difference. -/
theorem afterAll_empty (operations : List Operation) :
    afterAll .empty operations = bindAll .empty (sinceCleared operations) := by
  induction operations using List.reverseRecOn with
  | nil => rfl
  | append_singleton earlier last induction =>
      rw [afterAll_append, induction]
      cases last with
      | bind binding =>
          rw [sinceCleared_bind, bindAll_concat]
          rfl
      | clear =>
          rw [sinceCleared_clear]
          rfl

/-! ## Bindings of different events -/

/-- Bindings by which all events touch the same stay so, whatever is done with both of them. -/
theorem touches?_perform (alike : ∀ event, bindings.touches? event = others.touches? event)
    (operation : Operation) (event : String) :
    (bindings.perform operation).touches? event = (others.perform operation).touches? event := by
  cases operation with
  | bind binding =>
      rw [perform, perform, touches?_bind, touches?_bind, alike, alike]
  | clear => rfl

theorem touches?_afterAll (alike : ∀ event, bindings.touches? event = others.touches? event)
    (operations : List Operation) (event : String) :
    (bindings.afterAll operations).touches? event =
      (others.afterAll operations).touches? event := by
  induction operations generalizing bindings others with
  | nil => exact alike event
  | cons operation rest induction => exact induction (touches?_perform alike operation)

/-- It makes no difference which of two events is bound first. -/
theorem touches?_bind_comm (bindings : EventBindings) {first second : EventSetting}
    (differ : first.name ≠ second.name) (event : String) :
    ((bindings.perform (.bind first)).perform (.bind second)).touches? event =
      ((bindings.perform (.bind second)).perform (.bind first)).touches? event := by
  simp only [perform, touches?_bind, if_neg differ, if_neg differ.symm]
  by_cases isFirst : event = first.name
  · rw [if_neg (isFirst ▸ differ), if_pos isFirst, if_pos isFirst]
  · rw [if_neg isFirst, if_neg isFirst]

/--
After any history, an event is unknown exactly if it was not bound since the bindings were cleared
last, or since they were created.  Any other event touches the names of all its bindings, in the
order of the bindings, each name where it occurs first and nowhere else.  To make a binding again
changes nothing, neither at once nor later.  Bindings of different events may be made in either
order: whatever is done afterwards, all events touch the same, and as many are bound.
-/
theorem touches_accumulate (operations : List Operation) :
    let bindings := afterAll .empty operations
    let made := sinceCleared operations
    (∀ event, bindings.touches? event = none ↔ event ∉ made.map EventSetting.name) ∧
    (∀ event ∈ made.map EventSetting.name,
      bindings.touches? event = some (boundTo event made).eraseDups) ∧
    (∀ binding ∈ made, bindings.perform (.bind binding) = bindings) ∧
    (∀ binding,
      (bindings.perform (.bind binding)).perform (.bind binding) =
        bindings.perform (.bind binding)) ∧
    ∀ first second later, first.name ≠ second.name →
      let one := bindings.afterAll (.bind first :: .bind second :: later)
      let other := bindings.afterAll (.bind second :: .bind first :: later)
      (∀ event, one.touches? event = other.touches? event) ∧ one.size = other.size := by
  intro bindings made
  have again (operations : List Operation) (binding : EventSetting)
      (member : binding ∈ sinceCleared operations) :
      (afterAll .empty operations).perform (.bind binding) = afterAll .empty operations := by
    rw [afterAll_empty]
    exact bind_of_mem member
  have touched (event : String) : bindings.touches? event =
      if event ∈ made.map EventSetting.name then some (boundTo event made).eraseDups else none := by
    rw [← touches?_bindAll, ← afterAll_empty]
  refine ⟨fun event => ?unbound, fun event bound => ?bound, again operations, fun binding => ?twice,
    fun first second later differ => ?order⟩
  case unbound =>
    rw [touched]
    split <;> simp [*]
  case bound => rw [touched, if_pos bound]
  case twice =>
    have last : binding ∈ sinceCleared (operations ++ [.bind binding]) := by
      rw [sinceCleared_bind]
      exact List.mem_concat_self
    have same := again _ binding last
    rwa [afterAll_append] at same
  case order =>
    intro one other
    have alike := touches?_afterAll (touches?_bind_comm bindings differ) later
    exact ⟨alike, Table.size_eq alike⟩

/-- A second binding adds what the first one lacks, and a binding before the clearing is gone. -/
theorem touches_accumulate_rebinding :
    let enter : EventSetting := ⟨"level.enter", ["room", "SID", "room"]⟩
    let again : EventSetting := ⟨"level.enter", ["SID", "chapter"]⟩
    let tick : EventSetting := ⟨"tick", ["time"]⟩
    let bindings := afterAll .empty [.bind tick, .clear, .bind enter, .bind again]
    bindings.touches? "tick" = none ∧
      bindings.touches? "level.enter" = some ["room", "SID", "chapter"] ∧
      bindings.perform (.bind enter) = bindings ∧
      ∀ event,
        (bindings.afterAll [.bind tick, .bind enter]).touches? event =
          (bindings.afterAll [.bind enter, .bind tick]).touches? event := by
  intro enter again tick bindings
  obtain ⟨unbound, bound, known, -, order⟩ :=
    touches_accumulate [.bind tick, .clear, .bind enter, .bind again]
  have made : sinceCleared [.bind tick, .clear, .bind enter, .bind again] = [enter, again] := by
    decide +kernel
  rw [made] at unbound bound known
  exact ⟨(unbound "tick").mpr (by decide), bound "level.enter" (by decide),
    known enter List.mem_cons_self, (order tick enter [] (by decide)).1⟩

end EventBindings

end Vigil
