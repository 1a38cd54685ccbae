import Vigil.Proofs.Value.Sameness
import Vigil.Proofs.Watch.Reactivity
import Vigil.Simulation.Board
import Vigil.Watch.Poller

/-!
# What a poller does not report makes no difference

A probe stays silent if its sample is the same as the last one.  Nobody evaluates anything again
then, so whatever depends on the sensor must be as true as it was.  It is, because being the same is
a congruence of the language.  Built-in functions and the sensors of a board respect it as well.
-/

namespace Vigil

open Value

theorem Simulation.BoardSensor.answer_eq_of_same
    {arguments arguments' : List Value} (same : List.Forall₂ Same arguments arguments')
    (sensor : BoardSensor) (board : Board) :
    sensor.answer board arguments = sensor.answer board arguments' := by
  cases sensor with
  | flag | counter =>
      rw [BoardSensor.answer, BoardSensor.answer, Builtin.textAt_eq_of_same same]
  | flagCount | counterTotal => rfl

theorem Probe.changedBy_eq_false_iff {Code : Type} {probe : Probe Code} {sample : Value} :
    probe.changedBy sample = false ↔ ∃ last, probe.last? = some last ∧ last.Same sample := by
  rw [Probe.changedBy]
  cases probe.last? with
  | none => simp
  | some last => simp

namespace Registry

/-- The registry in which a function gives one answer to whatever it is called with. -/
def answering (registry : Registry Reaction) (name : String) (value : Value) :
    Registry Reaction where
  functions := registry.functions.map fun definition =>
    if definition.name = name then { definition with body := .host fun _ => .ok value }
    else definition
  named := by
    intro entry member
    rcases List.mem_map.mp member with ⟨earlier, listed, rfl⟩
    dsimp only
    split <;> exact registry.named earlier listed

theorem lookup?_answering (registry : Registry Reaction) (name : String) (value : Value)
    (other : String) :
    (registry.answering name value).lookup? other =
      (registry.lookup? other).map fun definition =>
        if definition.name = name then { definition with body := .host fun _ => .ok value }
        else definition := by
  exact Table.get?_map registry.functions _ other

/-- Answers that are the same make registries alike whose other functions respect sameness. -/
theorem answering_alikeOn {registry : Registry Reaction} {name other : String} {one two : Value}
    (respects : registry.AlikeOn Same registry other) (same : one.Same two) :
    AlikeOn Same (registry.answering name one) (registry.answering name two) other := by
  rw [AlikeOn] at respects ⊢
  rw [lookup?_answering, lookup?_answering]
  cases found : registry.lookup? other with
  | none => trivial
  | some definition =>
      rw [found] at respects
      simp only [Option.map_some]
      split
      · exact ⟨rfl, fun _ _ _ _ => .ok same⟩
      · exact respects

end Registry

/--
Being the same to a poller is an equivalence, for `nan` too, and two registries that answer the
calls of a tree alike up to it give the tree one error or values that are the same, and equally
true.  Built-in functions and the sensors of a board answer alike, so this covers them.  It also
covers every function whose answer a probe sampled without reporting a change: the outcome is what
it was at the last sample that was reported.
-/
theorem unreported_is_unobserved {first second : Registry Reaction} {tree : Tree}
    (alike : ∀ call ∈ tree.calls, first.AlikeOn Same second call.name) :
    Equivalence Same ∧
    EndAlike Same (first.evaluate tree) (second.evaluate tree) ∧
    (first.evaluate tree).map isTrue = (second.evaluate tree).map isTrue ∧
    (∀ (builtin : Builtin) arguments arguments', List.Forall₂ Same arguments arguments' →
      builtin.apply arguments = builtin.apply arguments') ∧
    (∀ (sensor : Simulation.BoardSensor) board arguments arguments',
      List.Forall₂ Same arguments arguments' →
        sensor.answer board arguments = sensor.answer board arguments') ∧
    (∀ negative negative', Same (.number (.zero negative)) (.number (.zero negative'))) ∧
    ∀ (Code : Type) (probe : Probe Code) (sample : Value) (registry : Registry Reaction),
      (∀ call ∈ tree.calls, registry.AlikeOn Same registry call.name) →
      probe.changedBy sample = false →
        ∃ last,
          probe.last? = some last ∧
          EndAlike Same
            ((registry.answering probe.name last).evaluate tree)
            ((registry.answering probe.name sample).evaluate tree) := by
  have ends := Registry.evaluate_alike sameAs_congruence alike
  have truth : EndAlike Eq ((first.evaluate tree).map isTrue) ((second.evaluate tree).map isTrue) :=
    ends.map fun _ _ same => isTrue_eq_of_sameAs same
  refine ⟨sameAs_equivalence, ends, truth.eq, ?_, ?_, ?_, ?_⟩
  · exact fun builtin _ _ same => Builtin.apply_eq_of_same same builtin
  · exact fun sensor board _ _ same => Simulation.BoardSensor.answer_eq_of_same same sensor board
  · intro negative negative'
    exact sameAs_number ((Number.position_zero _).trans (Number.position_zero _).symm)
  · intro Code probe sample registry respects silent
    rcases Probe.changedBy_eq_false_iff.mp silent with ⟨last, sampled, same⟩
    refine ⟨last, sampled, Registry.evaluate_alike sameAs_congruence fun call inside => ?_⟩
    exact Registry.answering_alikeOn (respects call inside) same

/-- A sensor that turns from zero to negative zero gives nothing away, and its probe is silent. -/
theorem unreported_is_unobserved_zeros :
    let sensor := Tree.call "f" [] ⟨0, 3⟩
    let before := Hosting.constantly "f" (.number (.zero false))
    let after := Hosting.constantly "f" (.number (.zero true))
    (∀ call ∈ sensor.calls, before.AlikeOn Same after call.name) ∧
    EndAlike Same (before.evaluate sensor) (after.evaluate sensor) ∧
    (⟨"f", (), some (.number (.zero false))⟩ : Probe Unit).changedBy (.number (.zero true)) =
      false := by
  intro sensor before after
  have zeros : Same (.number (.zero false)) (.number (.zero true)) := sameAs_number rfl
  have alike : ∀ call ∈ sensor.calls, before.AlikeOn Same after call.name := by
    intro call inside
    cases inside with
    | head => exact ⟨rfl, fun _ _ _ _ => .ok zeros⟩
    | tail _ further => cases further
  have evaluated := (unreported_is_unobserved alike).2.1
  exact ⟨alike, evaluated, Probe.changedBy_eq_false_iff.mpr ⟨_, rfl, zeros⟩⟩

end Vigil
