import Mathlib.Data.List.Induction
import Mathlib.Data.List.Nodup
import Vigil.Log.Collector
import Vigil.Proofs.Newest

/-!
# Collectors are windows

A collector takes notice of the events that are severe enough.  What it holds are the newest of
those that came since it was drained last, as many as there is room for, and draining takes out just
these. So whatever is taken out in a whole run, and what is left at its end, stands in the order of
the events, and no event is taken out twice.

A run is a list of operations, oldest first.  `Collector.entries_record` is the step of the
argument: what an event leaves in a collector that is not overfull.
-/

namespace Vigil.Log

/-! ## From events to entries -/

namespace Event

/-- The last message among some values. -/
def message? (values : List (String × Recorded)) : Option String :=
  (values.filter (·.1 = Visit.messageName)).getLast?.map (·.2.written)

/-- All values but the messages, in the order of recording. -/
def others (values : List (String × Recorded)) : List (String × String) :=
  (values.filter (·.1 ≠ Visit.messageName)).map fun value => (value.1, value.2.written)

theorem foldl_record (values : List (String × Recorded)) (visit : Visit) :
    values.foldl Visit.record visit =
      ⟨(message? values).getD visit.message, visit.fields ++ others values⟩ := by
  induction values generalizing visit with
  | nil =>
      rw [others, List.filter_nil, List.map_nil, List.append_nil]
      rfl
  | cons value rest induction =>
      rw [List.foldl_cons, induction, Visit.record, message?, message?, others, others]
      by_cases isMessage : value.1 = Visit.messageName
      · rw [if_pos isMessage, List.filter_cons_of_pos (by simpa using isMessage),
          List.filter_cons_of_neg (by simpa using isMessage), List.getLast?_cons]
        cases (rest.filter (·.1 = Visit.messageName)).getLast? <;> rfl
      · rw [if_neg isMessage, List.filter_cons_of_neg (by simpa using isMessage),
          List.filter_cons_of_pos (by simpa using isMessage), List.map_cons, List.append_assoc]
        rfl

/-- An entry has the level, the message and the other values of its event. -/
theorem entry_eq (event : Event) :
    event.entry = ⟨event.level, (message? event.values).getD "", others event.values⟩ := by
  rw [entry, foldl_record]
  rfl

end Event

namespace Collector

variable {collector : Collector}

/-! ## One event -/

/-- An entry that is severe enough comes last, and the oldest one goes if it has no place. -/
theorem entries_record (room : collector.entries.length ≤ collector.capacity) (entry : Entry) :
    (collector.record entry).entries =
      if Level.atLeast collector.threshold entry.level then
        (collector.entries ++ [entry]).rtake collector.capacity
      else collector.entries := by
  cases severe : Level.atLeast collector.threshold entry.level with
  | false =>
      rw [record, severe]
      rfl
  | true =>
      cases capacity : collector.capacity with
      | zero =>
          have nothing : collector.entries = [] :=
            List.eq_nil_of_length_eq_zero (Nat.eq_zero_of_le_zero (capacity ▸ room))
          rw [record, severe, capacity, List.rtake_zero]
          exact nothing
      | succ others =>
          rw [capacity] at room
          rw [record, severe, capacity, if_pos rfl, List.rtake_concat_succ, if_neg (by simp)]
          refine congrArg (· ++ [entry]) ?_
          split
          · next full =>
            rw [List.rtake, Nat.le_antisymm room full, Nat.add_sub_cancel_left]
          · next free => rw [rtake_of_length_le (by omega)]

@[simp]
theorem capacity_record (entry : Entry) :
    (collector.record entry).capacity = collector.capacity := by
  rw [record]
  split <;> rfl

@[simp]
theorem threshold_record (entry : Entry) :
    (collector.record entry).threshold = collector.threshold := by
  rw [record]
  split <;> rfl

/-! ## Runs -/

/-- What can be done with a collector. -/
inductive Operation where
  | emit (event : Event)
  | read
  | drain
deriving DecidableEq

/-- The event that is emitted. -/
def Operation.event? : Operation → Option Event
  | emit event => some event
  | _ => none

/-- Do something with a collector; the answer is what is shown. -/
def perform (collector : Collector) : Operation → List Entry × Collector
  | .emit event => ([], collector.receive event)
  | .read => (collector.entries, collector)
  | .drain => collector.drain

/-- The collector after some operations. -/
def afterAll (collector : Collector) (operations : List Operation) : Collector :=
  operations.foldl (fun collector operation => (collector.perform operation).2) collector

/-- What is taken out in a run, one list for each draining. -/
def drained (collector : Collector) : List Operation → List (List Entry)
  | [] => []
  | operation :: rest =>
    let others := (collector.perform operation).2.drained rest
    if operation = .drain then (collector.perform operation).1 :: others else others

/-- The events that are emitted in a run. -/
def emitted (operations : List Operation) : List Event :=
  operations.filterMap Operation.event?

/-- The operations since the last draining. -/
def sinceDrained (operations : List Operation) : List Operation :=
  operations.rtakeWhile (· ≠ .drain)

/-- The entries of the events that are at least as severe as a threshold. -/
def retained (threshold : Level) (events : List Event) : List Entry :=
  (events.filter fun event => Level.atLeast threshold event.level).map Event.entry

theorem afterAll_concat (collector : Collector) (operations : List Operation) (last : Operation) :
    collector.afterAll (operations ++ [last]) =
      ((collector.afterAll operations).perform last).2 :=
  List.foldl_concat ..

theorem drained_concat (collector : Collector) (operations : List Operation) (last : Operation) :
    collector.drained (operations ++ [last]) =
      collector.drained operations ++
        if last = .drain then [(collector.afterAll operations).entries] else [] := by
  induction operations generalizing collector with
  | nil =>
      rw [List.nil_append, drained, drained, drained]
      split
      · next draining =>
        subst draining
        rfl
      · rfl
  | cons first rest induction =>
      rw [List.cons_append, drained, drained, induction]
      split <;> rfl

/-- What is emitted is counted until the next draining. -/
theorem emitted_sinceDrained_concat {last : Operation} (staying : last ≠ .drain)
    (earlier : List Operation) :
    emitted (sinceDrained (earlier ++ [last])) =
      emitted (sinceDrained earlier) ++ last.event?.toList := by
  rw [sinceDrained, List.rtakeWhile_concat_pos _ _ last (by simpa using staying), emitted,
    List.filterMap_append]
  cases emits : last.event? <;> simp [emitted, sinceDrained, emits]

theorem retained_append (threshold : Level) (events later : List Event) :
    retained threshold (events ++ later) =
      retained threshold events ++ retained threshold later := by
  rw [retained, List.filter_append, List.map_append]
  rfl

/-- An entry that is severe enough comes last, and the oldest one goes if it has no place. -/
theorem entries_receive (room : collector.entries.length ≤ collector.capacity) (event : Event) :
    (collector.receive event).entries =
      (collector.entries ++ retained collector.threshold [event]).rtake collector.capacity := by
  rw [receive, entries_record room, retained, List.filter_singleton]
  cases severe : Level.atLeast collector.threshold event.level with
  | true => exact if_pos severe
  | false =>
      rw [cond_false, List.map_nil, List.append_nil, rtake_of_length_le room]
      exact if_neg (Bool.eq_false_iff.mp severe)

/-- Each draining takes out what the collector holds at that moment. -/
theorem exists_of_mem_drained {operations : List Operation} {entries : List Entry}
    (member : entries ∈ collector.drained operations) :
    ∃ earlier later,
      operations = earlier ++ .drain :: later ∧ entries = (collector.afterAll earlier).entries := by
  induction operations using List.reverseRecOn with
  | nil => cases member
  | append_singleton before last induction =>
      rw [drained_concat] at member
      rcases List.mem_append.mp member with taken | taken
      · rcases induction taken with ⟨earlier, later, rfl, rfl⟩
        exact ⟨earlier, later ++ [last], by simp, rfl⟩
      · split at taken
        · next draining =>
          rw [draining, List.mem_singleton.mp taken]
          exact ⟨before, [], rfl, rfl⟩
        · cases taken

section Run

variable (capacity : Nat) (threshold : Level) (operations : List Operation)

/-- A run leaves a window on what came since the last draining; the bounds are never changed. -/
theorem afterAll_new :
    let collector := (new capacity threshold).afterAll operations
    collector.capacity = capacity ∧ collector.threshold = threshold ∧
      collector.entries =
        (retained threshold (emitted (sinceDrained operations))).rtake capacity := by
  induction operations using List.reverseRecOn with
  | nil => exact ⟨rfl, rfl, (List.rtake_nil capacity).symm⟩
  | append_singleton earlier last induction =>
      rcases induction with ⟨sameCapacity, sameThreshold, entries⟩
      rw [afterAll_concat]
      cases last with
      | emit event =>
          have room : ((new capacity threshold).afterAll earlier).entries.length ≤
              ((new capacity threshold).afterAll earlier).capacity := by
            rw [entries, sameCapacity, length_rtake]
            exact Nat.min_le_left capacity _
          have newer : emitted (sinceDrained (earlier ++ [.emit event])) =
              emitted (sinceDrained earlier) ++ [event] :=
            emitted_sinceDrained_concat (by simp) earlier
          refine ⟨(capacity_record _).trans sameCapacity,
            (threshold_record _).trans sameThreshold, (entries_receive room event).trans ?_⟩
          rw [newer, retained_append, sameThreshold, sameCapacity, entries, rtake_newest_append]
      | read =>
          have same : emitted (sinceDrained (earlier ++ [.read])) =
              emitted (sinceDrained earlier) ++ [] :=
            emitted_sinceDrained_concat (by simp) earlier
          rw [same, List.append_nil]
          exact ⟨sameCapacity, sameThreshold, entries⟩
      | drain =>
          have none : sinceDrained (earlier ++ [.drain]) = [] :=
            List.rtakeWhile_concat_neg _ _ _ (by simp)
          rw [none]
          exact ⟨sameCapacity, sameThreshold, (List.rtake_nil capacity).symm⟩

theorem length_afterAll_le :
    ((new capacity threshold).afterAll operations).entries.length ≤ capacity := by
  rw [(afterAll_new capacity threshold operations).2.2, length_rtake]
  exact Nat.min_le_left capacity _

/-- What is taken out and what is left stand in the order of the events. -/
theorem drained_sublist :
    (((new capacity threshold).drained operations).flatten ++
        ((new capacity threshold).afterAll operations).entries).Sublist
      (retained threshold (emitted operations)) := by
  induction operations using List.reverseRecOn with
  | nil => exact .slnil
  | append_singleton earlier last induction =>
      rw [afterAll_concat, drained_concat, List.flatten_append, emitted, List.filterMap_append,
        retained_append]
      cases last with
      | emit event =>
          rcases afterAll_new capacity threshold earlier with ⟨sameCapacity, sameThreshold, -⟩
          have room := length_afterAll_le capacity threshold earlier
          generalize (new capacity threshold).afterAll earlier = collector at *
          subst sameCapacity sameThreshold
          -- An event pushes out the oldest entries only, so a part of those that came is left.
          have window : (collector.receive event).entries.Sublist
              (collector.entries ++ retained collector.threshold [event]) :=
            entries_receive room event ▸ List.drop_sublist ..
          rw [if_neg (by simp), List.flatten_nil, List.append_nil]
          refine ((List.Sublist.refl _).append window).trans ?_
          rw [← List.append_assoc]
          exact induction.append (.refl _)
      | read =>
          rw [if_neg (by simp), List.flatten_nil, List.append_nil]
          exact induction.trans (List.sublist_append_left ..)
      | drain =>
          rw [if_pos rfl, List.flatten_singleton]
          refine .trans ?_ (induction.trans (List.sublist_append_left ..))
          exact List.append_nil _ ▸ .refl _

end Run

/--
After any run, a collector holds the newest of the entries that were severe enough and came since
the last draining, as many as there is room for, in the order of their events.  Reading shows these
entries; draining takes out the same ones and leaves none.  What all the drainings take out,
followed by what is left, is a part of the entries that came, in their order, so none of them is
taken out twice.
-/
theorem holds_newest_since_drained (capacity : Nat) (threshold : Level)
    (operations : List Operation) :
    let collector := (new capacity threshold).afterAll operations
    let waiting := retained threshold (emitted (sinceDrained operations))
    let drained := (new capacity threshold).drained operations
    (collector.entries = waiting.rtake capacity ∧
      collector.entries.length = min capacity waiting.length) ∧
    (∀ event : Event, event.entry =
      ⟨event.level, (Event.message? event.values).getD "", Event.others event.values⟩) ∧
    (∀ content, (Recorded.text content).written = content ∧
      (Recorded.quoted content).written = Text.quoted content ∧
      (Recorded.shown content).written = content) ∧
    collector.perform .read = (waiting.rtake capacity, collector) ∧
    ((collector.perform .drain).1 = waiting.rtake capacity ∧
      (collector.perform .drain).2 = new capacity threshold) ∧
    (∀ entries ∈ drained, ∃ earlier later, operations = earlier ++ .drain :: later ∧
      entries = (retained threshold (emitted (sinceDrained earlier))).rtake capacity) ∧
    ((drained.flatten ++ collector.entries).Sublist (retained threshold (emitted operations)) ∧
      ((retained threshold (emitted operations)).Nodup → drained.Pairwise List.Disjoint)) ∧
    (capacity = 0 → collector.entries = [] ∧ ∀ entries ∈ drained, entries = []) := by
  intro collector waiting drained
  have window : ∀ entries ∈ drained, ∃ earlier later, operations = earlier ++ .drain :: later ∧
      entries = (retained threshold (emitted (sinceDrained earlier))).rtake capacity := by
    intro entries member
    rcases exists_of_mem_drained member with ⟨earlier, later, split, taken⟩
    exact ⟨earlier, later, split, taken.trans (afterAll_new capacity threshold earlier).2.2⟩
  have inOrder := drained_sublist capacity threshold operations
  rcases afterAll_new capacity threshold operations with ⟨sameCapacity, sameThreshold, entries⟩
  refine ⟨⟨entries, ?count⟩, Event.entry_eq, fun content => ⟨Recorded.written_text content,
    Recorded.written_quoted content, Recorded.written_shown content⟩, Prod.ext entries rfl,
    ⟨entries, ?emptied⟩, window, ⟨inOrder, ?once⟩, ?nothing⟩
  case count =>
    rw [entries, length_rtake]
  case emptied =>
    exact congrArg₂ (Collector.mk · · []) sameCapacity sameThreshold
  case once =>
    intro distinct
    have taken := (List.nodup_append.mp (distinct.sublist inOrder)).1
    exact (List.nodup_flatten.mp taken).2
  case nothing =>
    rintro rfl
    refine ⟨entries.trans (List.rtake_zero _), fun taken member => ?_⟩
    rcases window taken member with ⟨earlier, later, -, rfl⟩
    exact List.rtake_zero _

/-- With room for one entry the older of two goes, and an event that is too mild changes nothing. -/
example :
    ((new 1 .info).afterAll
        [.emit ⟨.error, [("message", .shown "full")]⟩,
          .emit ⟨.warn, [("left", .shown "3"), ("message", .shown "low")]⟩,
          .emit ⟨.debug, [("message", .shown "looked")]⟩]).entries =
      [⟨.warn, "low", [("left", "3")]⟩] := by
  decide +kernel

end Collector

end Vigil.Log
