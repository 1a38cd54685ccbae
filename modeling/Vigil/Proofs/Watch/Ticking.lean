import Vigil.Proofs.Watch.Bindings
import Vigil.Proofs.Watch.Finality
import Vigil.Proofs.Watch.Unreported

/-!
# What a tick reports

A poller stores a sample only where it reports a change, so what it stores for a probe may be older
than the last tick.  It is the same as the last sample nevertheless, for sameness is an equivalence.
Hence a tick reports exactly the sensors whose samples differ from those of the tick before, or that
have not been sampled before.

What is registered and what was sampled last is read off the history of a poller alone, which is given
newest operation first.  `Poller.Follows` relates a poller to its history, and every operation keeps
this relation.
-/

namespace Vigil

variable {Code : Type}

/-- A probe after one sample. -/
def Probe.updatedBy (probe : Probe Code) (sample : Value) : Probe Code :=
  if probe.changedBy sample then { probe with last? := some sample } else probe

@[simp]
theorem Probe.name_updatedBy (probe : Probe Code) (sample : Value) :
    (probe.updatedBy sample).name = probe.name := by
  rw [updatedBy]
  split <;> rfl

@[simp]
theorem Probe.code_updatedBy (probe : Probe Code) (sample : Value) :
    (probe.updatedBy sample).code = probe.code := by
  rw [updatedBy]
  split <;> rfl

namespace Poller

variable {poller : Poller Code}

/-! ## Adding a probe -/

theorem add_fails_iff {sensor : String} {code : Code} :
    (∃ error, poller.add sensor code = .error error) ↔
      poller.strategies.get? sensor = some .push ∨ sensor ∈ poller.names := by
  rw [add]
  split
  · next pushed => exact iff_of_true ⟨_, rfl⟩ (.inl pushed)
  · next allowed =>
    split
    · next known => exact iff_of_true ⟨_, rfl⟩ (.inr known)
    · next new =>
      refine iff_of_false ?_ (not_or.mpr ⟨allowed, new⟩)
      rintro ⟨error, impossible⟩
      cases impossible

theorem add_eq_ok {sensor : String} {code : Code} {extended : Poller Code}
    (added : poller.add sensor code = .ok extended) :
    poller.strategies.get? sensor ≠ some .push ∧ sensor ∉ poller.names ∧
      extended = { poller with probes := poller.probes ++ [⟨sensor, code, none⟩] } := by
  rw [add] at added
  split at added
  · cases added
  · next allowed =>
    split at added
    · cases added
    · next new =>
      cases added
      exact ⟨allowed, new, rfl⟩

/-! ## One tick -/

theorem find?_of_split {before after : List (Probe Code)} {probe : Probe Code}
    (distinct : ((before ++ probe :: after).map Probe.name).Nodup) :
    (before ++ probe :: after).find? (·.name == probe.name) = some probe := by
  rw [List.map_append, List.nodup_append] at distinct
  have absent : before.find? (·.name == probe.name) = none := by
    rw [List.find?_eq_none]
    intro other member same
    exact distinct.2.2 other.name (List.mem_map_of_mem member) probe.name List.mem_cons_self
      (eq_of_beq same)
  rw [List.find?_append, absent]
  simp

theorem map_of_absent {probes : List (Probe Code)} {name : String} {sample : Value}
    (absent : name ∉ probes.map Probe.name) :
    (probes.map fun probe =>
      if probe.name = name then { probe with last? := some sample } else probe) = probes := by
  refine (List.map_congr_left fun probe member => if_neg ?_).trans (List.map_id probes)
  rintro rfl
  exact absent (List.mem_map_of_mem member)

/-- A comparison concerns one probe. -/
theorem observe_of_split {before after : List (Probe Code)} {probe : Probe Code}
    (split : poller.probes = before ++ probe :: after) (distinct : poller.names.Nodup)
    (sample : Value) :
    poller.observe probe.name sample =
      (probe.changedBy sample,
        { poller with probes := before ++ probe.updatedBy sample :: after }) := by
  rw [names, split] at distinct
  rw [observe, split, find?_of_split distinct]
  dsimp only
  rw [Probe.updatedBy]
  rw [List.map_append, List.nodup_append, List.map_cons, List.nodup_cons] at distinct
  have absent : probe.name ∉ before.map Probe.name := fun member =>
    distinct.2.2 probe.name member probe.name List.mem_cons_self rfl
  split
  · next changed =>
    rw [changed, List.map_append, List.map_cons, map_of_absent absent,
      map_of_absent distinct.2.1.1, if_pos rfl]
  · next unchanged =>
    rw [Bool.eq_false_iff.mpr unchanged, ← split]

/-- Comparing every probe with a sample of its own. -/
theorem observeAll_of_split {before after : List (Probe Code)}
    (split : poller.probes = before ++ after) (distinct : poller.names.Nodup)
    (sample : Code → Value) :
    poller.observeAll (after.map fun probe => (probe.name, sample probe.code)) =
      ((after.filter fun probe => probe.changedBy (sample probe.code)).map fun probe =>
          (probe.name, sample probe.code),
        { poller with
          probes := before ++ after.map fun probe => probe.updatedBy (sample probe.code) }) := by
  induction after generalizing poller before with
  | nil =>
      rw [List.append_nil] at split
      rw [List.map_nil, List.map_nil, List.append_nil, ← split]
      rfl
  | cons probe rest induction =>
      let observed : Poller Code :=
        { poller with probes := before ++ probe.updatedBy (sample probe.code) :: rest }
      have split' : observed.probes = before ++ [probe.updatedBy (sample probe.code)] ++ rest :=
        List.append_cons before _ rest
      have same : observed.names = poller.names := by
        have kept : (poller.observe probe.name (sample probe.code)).2.names = poller.names :=
          names_observe probe.name (sample probe.code)
        rwa [observe_of_split split distinct] at kept
      rw [List.map_cons, observeAll, observe_of_split split distinct]
      dsimp only
      rw [induction split' (same ▸ distinct), List.filter_cons, List.append_assoc]
      split
      · rfl
      · rfl

/-- Where a sample drops every probe, nothing is left that could be compared with its sample. -/
theorem tick_of_clearing {sample : Code → Sample}
    (clearing : ∃ probe ∈ poller.probes, (sample probe.code).clears = true) :
    poller.tick sample = ([], poller.clear) := by
  have cleared : (poller.probes.map fun probe =>
      (probe.name, sample probe.code)).any (·.2.clears) = true := by
    rcases clearing with ⟨probe, member, clears⟩
    exact List.any_eq_true.mpr ⟨_, List.mem_map_of_mem member, clears⟩
  rw [tick]
  dsimp only
  rw [if_pos cleared, Hosting.Poller.probes_observeAll (rfl : poller.clear.probes = [])]
  rfl

/-- Where all probes stay, each is compared with its sample. -/
theorem tick_of_keeping {sample : Code → Sample}
    (keeping : ∀ probe ∈ poller.probes, (sample probe.code).clears = false)
    (distinct : poller.names.Nodup) :
    poller.tick sample =
      ((poller.probes.filter fun probe => probe.changedBy (sample probe.code).value).map Probe.name,
        { poller with
          probes := poller.probes.map fun probe => probe.updatedBy (sample probe.code).value }) := by
  have kept : ¬(poller.probes.map fun probe =>
      (probe.name, sample probe.code)).any (·.2.clears) = true := by
    rw [Bool.not_eq_true, List.any_eq_false]
    intro sampled member
    rcases List.mem_map.mp member with ⟨probe, isProbe, rfl⟩
    exact Bool.eq_false_iff.mp (keeping probe isProbe)
  have compared := observeAll_of_split (List.nil_append poller.probes).symm distinct
    fun code => (sample code).value
  rw [tick]
  dsimp only
  rw [if_neg kept, List.map_map]
  simp only [Function.comp_def, compared, List.map_map, List.nil_append]

theorem remembered_updatedBy (probe : Probe Code) (sample : Value) :
    ∃ last, (probe.updatedBy sample).last? = some last ∧ last.Same sample := by
  rw [Probe.updatedBy]
  split
  · exact ⟨sample, rfl, Value.sameAs_refl sample⟩
  · next unchanged => exact Probe.changedBy_eq_false_iff.mp (Bool.eq_false_iff.mpr unchanged)

/-! ## Histories -/

/-- What can be done with a poller. -/
inductive Operation (Code : Type) where
  | add (sensor : String) (code : Code)
  | tick (sample : Code → Sample)
  | clear

/-- Do something with a poller. -/
def carryOut (poller : Poller Code) : Operation Code → Poller Code
  | .add sensor code =>
    match poller.add sensor code with
    | .ok extended => extended
    | .error _ => poller
  | .tick sample => (poller.tick sample).2
  | .clear => poller.clear

/-- The poller after a history. -/
def after (strategies : StrategyTable) : List (Operation Code) → Poller Code
  | [] => .new strategies
  | operation :: earlier => (after strategies earlier).carryOut operation

/-- The sensors that have a probe after a history, and their code, in the order of registration. -/
def registered (strategies : StrategyTable) : List (Operation Code) → List (String × Code)
  | [] => []
  | .add sensor code :: earlier =>
    let known := registered strategies earlier
    if strategies.get? sensor = some .push ∨ sensor ∈ known.map Prod.fst then known
    else known ++ [(sensor, code)]
  | .tick sample :: earlier =>
    let known := registered strategies earlier
    if known.any fun probe => (sample probe.2).clears then [] else known
  | .clear :: _ => []

/-- What the probe of a sensor found at the last tick, if it was there. -/
def previous? (strategies : StrategyTable) (sensor : String) : List (Operation Code) → Option Value
  | [] => none
  | .add _ _ :: earlier => previous? strategies sensor earlier
  | .tick sample :: earlier =>
    let known := registered strategies earlier
    if known.any fun probe => (sample probe.2).clears then none
    else (known.find? (·.1 == sensor)).map fun probe => (sample probe.2).value
  | .clear :: _ => none

/-- Whether a sample differs from the one before it, or is the first. -/
def differs : Option Value → Value → Bool
  | none, _ => true
  | some previous, sample => !previous.sameAs sample

/-- A sensor without a probe has not been sampled. -/
theorem previous?_of_unregistered {strategies : StrategyTable} {sensor : String}
    {history : List (Operation Code)}
    (absent : sensor ∉ (registered strategies history).map Prod.fst) :
    previous? strategies sensor history = none := by
  induction history with
  | nil => rfl
  | cons operation earlier induction =>
      cases operation with
      | add other code =>
          refine induction fun member => absent ?_
          rw [registered]
          split
          · exact member
          · rw [List.map_append]
            exact List.mem_append_left _ member
      | tick sample =>
          rw [registered] at absent
          rw [previous?]
          split at absent
          · next clearing => exact if_pos clearing
          · next keeping =>
            rw [if_neg keeping, Option.map_eq_none_iff, List.find?_eq_none]
            rintro probe member same
            rw [← eq_of_beq same] at absent
            exact absent (List.mem_map_of_mem member)
      | clear => rfl

/-- A poller is what its history has made of it. -/
structure Follows (strategies : StrategyTable) (history : List (Operation Code))
    (poller : Poller Code) : Prop where
  strategies_eq : poller.strategies = strategies
  registered_eq :
    (poller.probes.map fun probe => (probe.name, probe.code)) = registered strategies history
  distinct : poller.names.Nodup
  unpushed : ∀ sensor ∈ poller.names, strategies.get? sensor ≠ some .push
  remembered : ∀ probe ∈ poller.probes,
    Option.Rel Value.Same probe.last? (previous? strategies probe.name history)

namespace Follows

variable {strategies : StrategyTable} {history : List (Operation Code)}

theorem new (strategies : StrategyTable) : Follows strategies [] (.new strategies : Poller Code) where
  strategies_eq := rfl
  registered_eq := rfl
  distinct := .nil
  unpushed := List.forall_mem_nil _
  remembered := List.forall_mem_nil _

variable (follows : Follows strategies history poller)
include follows

theorem names_eq : poller.names = (registered strategies history).map Prod.fst := by
  rw [← follows.registered_eq, List.map_map]
  rfl

/-- What a probe remembers is as good as the sample at the last tick. -/
theorem changedBy_eq {probe : Probe Code} (member : probe ∈ poller.probes) (sample : Value) :
    probe.changedBy sample = differs (previous? strategies probe.name history) sample := by
  have remembered := follows.remembered probe member
  rw [Probe.changedBy]
  generalize probe.last? = last?, previous? strategies probe.name history = earlier? at remembered ⊢
  cases remembered with
  | none => rfl
  | some same =>
      refine congrArg not (Bool.eq_iff_iff.mpr ⟨fun as => ?_, fun as => ?_⟩)
      · exact Value.sameAs_trans (Value.sameAs_symm same) as
      · exact Value.sameAs_trans same as

theorem any_clears_iff {sample : Code → Sample} :
    ((registered strategies history).any fun probe => (sample probe.2).clears) = true ↔
      ∃ probe ∈ poller.probes, (sample probe.code).clears = true := by
  rw [← follows.registered_eq, List.any_map, List.any_eq_true]
  rfl

/-- What a tick reports, read off the history. -/
theorem changed_eq (sample : Code → Value) :
    (poller.probes.filter fun probe => probe.changedBy (sample probe.code)).map Probe.name =
      ((registered strategies history).filter fun probe =>
        differs (previous? strategies probe.1 history) (sample probe.2)).map Prod.fst := by
  rw [← follows.registered_eq, List.filter_map, List.map_map]
  refine congrArg _ (List.filter_congr fun probe member => ?_)
  exact follows.changedBy_eq member (sample probe.code)

/-! ### What an operation keeps -/

theorem refused {sensor : String} {code : Code}
    (refusal : strategies.get? sensor = some .push ∨ sensor ∈ poller.names) :
    Follows strategies (.add sensor code :: history) poller :=
  { follows with
    registered_eq := by
      rw [follows.names_eq] at refusal
      rw [registered, if_pos refusal]
      exact follows.registered_eq }

theorem accepted {sensor : String} {code : Code} {extended : Poller Code}
    (added : poller.add sensor code = .ok extended) :
    Follows strategies (.add sensor code :: history) extended := by
  have distinct := nodup_add follows.distinct added
  rcases add_eq_ok added with ⟨allowed, new, rfl⟩
  rw [follows.strategies_eq] at allowed
  rw [follows.names_eq] at new
  refine ⟨follows.strategies_eq, ?_, distinct, fun name member => ?_, fun probe member => ?_⟩
  · rw [registered, if_neg (not_or.mpr ⟨allowed, new⟩), List.map_append, follows.registered_eq]
    rfl
  · rw [names, List.map_append] at member
    rcases List.mem_append.mp member with early | late
    · exact follows.unpushed name early
    · rcases List.mem_singleton.mp late with rfl
      exact allowed
  · rcases List.mem_append.mp member with early | late
    · exact follows.remembered probe early
    · rcases List.mem_singleton.mp late with rfl
      rw [previous?, previous?_of_unregistered new]
      exact .none

theorem emptied {operation : Operation Code}
    (empty : registered strategies (operation :: history) = []) :
    Follows strategies (operation :: history) poller.clear where
  strategies_eq := follows.strategies_eq
  registered_eq := empty.symm
  distinct := .nil
  unpushed := List.forall_mem_nil _
  remembered := List.forall_mem_nil _

theorem previous?_tick {sample : Code → Sample} {probe : Probe Code}
    (member : probe ∈ poller.probes)
    (keeping : ¬∃ probe ∈ poller.probes, (sample probe.code).clears = true) :
    previous? strategies probe.name (.tick sample :: history) = some (sample probe.code).value := by
  rw [previous?, if_neg (follows.any_clears_iff.not.mpr keeping), ← follows.registered_eq,
    List.find?_map]
  rcases List.append_of_mem member with ⟨before, after, split⟩
  have distinct := follows.distinct
  rw [names, split] at distinct
  have found := find?_of_split distinct
  rw [← split] at found
  rw [Function.comp_def, found]
  rfl

theorem sampled {sample : Code → Sample}
    (keeping : ¬∃ probe ∈ poller.probes, (sample probe.code).clears = true) :
    Follows strategies (.tick sample :: history)
      { poller with
        probes := poller.probes.map fun probe => probe.updatedBy (sample probe.code).value } where
  strategies_eq := follows.strategies_eq
  registered_eq := by
    rw [registered, if_neg (follows.any_clears_iff.not.mpr keeping), ← follows.registered_eq,
      List.map_map]
    simp [Function.comp_def]
  distinct := by
    rw [names, List.map_map]
    simp only [Function.comp_def, Probe.name_updatedBy]
    exact follows.distinct
  unpushed := by
    intro name member
    rw [names, List.map_map] at member
    simp only [Function.comp_def, Probe.name_updatedBy] at member
    exact follows.unpushed name member
  remembered := by
    intro updated member
    rcases List.mem_map.mp member with ⟨probe, isProbe, rfl⟩
    rcases remembered_updatedBy probe (sample probe.code).value with ⟨last, remembers, same⟩
    rw [Probe.name_updatedBy, follows.previous?_tick isProbe keeping, remembers]
    exact .some same

/-- Whatever is done, a poller follows its history. -/
theorem carryOut (operation : Operation Code) :
    Follows strategies (operation :: history) (poller.carryOut operation) := by
  cases operation with
  | add sensor code =>
      rw [Poller.carryOut]
      cases added : poller.add sensor code with
      | ok extended => exact follows.accepted added
      | error error =>
          refine follows.refused ?_
          rw [← follows.strategies_eq]
          exact add_fails_iff.mp ⟨error, added⟩
  | tick sample =>
      rw [Poller.carryOut]
      by_cases clearing : ∃ probe ∈ poller.probes, (sample probe.code).clears = true
      · rw [tick_of_clearing clearing]
        exact follows.emptied (if_pos (follows.any_clears_iff.mpr clearing))
      · rw [tick_of_keeping (by simpa using clearing) follows.distinct]
        exact follows.sampled clearing
  | clear => exact follows.emptied rfl

end Follows

/-- A poller follows its history from the start. -/
theorem after_follows (strategies : StrategyTable) (history : List (Operation Code)) :
    Follows strategies history (after strategies history) := by
  induction history with
  | nil => exact .new strategies
  | cons operation earlier induction => exact induction.carryOut operation

/--
After any history, the probes have distinct names in the order of registration, none of which is set
to be pushed, and adding a probe fails only for such a name or one that is taken, without a trace.  A
tick reports the sensors whose samples are not the same as those of the tick before, or which have
not been sampled before, in the same order; if a sample drops the probes, it reports nothing.
-/
theorem tick_reports_differences (strategies : StrategyTable) (history : List (Operation Code)) :
    let poller := after strategies history
    let known := registered strategies history
    (poller.probes.map fun probe => (probe.name, probe.code)) = known ∧
      poller.names.Nodup ∧
      (∀ sensor ∈ poller.names, strategies.get? sensor ≠ some .push) ∧
      (∀ sensor code, (∃ error, poller.add sensor code = .error error) ↔
        strategies.get? sensor = some .push ∨ sensor ∈ poller.names) ∧
      (∀ sensor code error, poller.add sensor code = .error error →
        after strategies (.add sensor code :: history) = poller) ∧
      ∀ sample : Code → Sample,
        ((∀ probe ∈ known, (sample probe.2).clears = false) →
          (poller.tick sample).1 =
              (known.filter fun probe =>
                differs (previous? strategies probe.1 history) (sample probe.2).value).map
                Prod.fst ∧
            (poller.tick sample).2.names = poller.names) ∧
        ((∃ probe ∈ known, (sample probe.2).clears = true) →
          (poller.tick sample).1 = [] ∧ (poller.tick sample).2.probes = []) := by
  have follows : Follows strategies history (after strategies history : Poller Code) :=
    after_follows strategies history
  refine ⟨follows.registered_eq, follows.distinct, follows.unpushed, fun sensor code => ?_,
    fun sensor code error failed => ?_, fun sample => ⟨fun keeping => ?_, fun clearing => ?_⟩⟩
  · rw [add_fails_iff, follows.strategies_eq]
  · rw [after, Poller.carryOut, failed]
  · have kept : ¬∃ probe ∈ (after strategies history : Poller Code).probes,
        (sample probe.code).clears = true := by
      rw [← follows.any_clears_iff, Bool.not_eq_true, List.any_eq_false]
      exact fun probe member => Bool.eq_false_iff.mp (keeping probe member)
    rw [tick_of_keeping (by simpa using kept) follows.distinct]
    refine ⟨follows.changed_eq fun code => (sample code).value, ?_⟩
    simp [names, Function.comp_def]
  · rw [tick_of_clearing (follows.any_clears_iff.mp (List.any_eq_true.mpr clearing))]
    exact ⟨rfl, rfl⟩

end Poller

end Vigil
