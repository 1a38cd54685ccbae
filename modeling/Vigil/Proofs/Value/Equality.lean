import Vigil.Proofs.Value.Numeric
import Vigil.Proofs.Value.Sameness

/-!
# What loose equality compares

Loose equality looks at numbers or at texts, depending on both operands.  Still there is one key to
each value, and values are loosely equal exactly if their keys are the same (`looselyEquals_iff`),
`nan` apart, which has a key but does not equal itself.  The reason is that the texts of finite
numbers have a numeric view, while no other value has a text of this kind.
-/

namespace Vigil

theorem Number.equals_comm (first second : Number) : first.equals second = second.equals first := by
  rw [equals, compareBy, compareBy]
  cases first.position with
  | none => cases second.position <;> rfl
  | some place =>
      cases second.position with
      | none => rfl
      | some place' => exact Bool.beq_comm

/-- A finite number is not at the position of one that is not finite. -/
theorem Number.equals_of_finite {first second : Number} (finite : first.isFinite = true)
    (endless : second.isFinite = false) : first.equals second = false := by
  rw [Bool.eq_false_iff]
  intro equal
  rcases eq_or_zeros_of_position (equals_iff.mp equal).1 with rfl | ⟨-, ⟨negative, rfl⟩⟩
  · rw [finite] at endless
    cases endless
  · cases endless

namespace Value

/-! ## Keys -/

/-- What loose equality compares: the position of a finite number, or else a text. -/
inductive Key where
  | absent
  | place (position : Int)
  | words (content : String)
deriving DecidableEq

/-- The key of a value. -/
def key (value : Value) : Key :=
  if value.isAbsent then
    .absent
  else
    match value.asNumber? with
    | some (.finite negative magnitude) => .place (Number.signed negative magnitude.steps)
    | _ => .words value.asText

/-- A value that is compared as a finite number. -/
structure IsPlace (value : Value) (number : Number) : Prop where
  view : value.asNumber? = some number
  finite : number.isFinite = true

/-- A value that is compared as a text: it is present, and its numeric view is not finite. -/
structure IsWords (value : Value) : Prop where
  present : value.isAbsent = false
  endless : ∀ number, value.asNumber? = some number → number.isFinite = false

theorem key_cases (value : Value) :
    value = .absent ∨ (∃ number, value.IsPlace number) ∨ value.IsWords := by
  by_cases absent : value.isAbsent = true
  · left
    cases value with
    | absent => rfl
    | boolean | number | text => cases absent
  · rw [Bool.not_eq_true] at absent
    cases view : value.asNumber? with
    | none => exact .inr (.inr ⟨absent, by simp [view]⟩)
    | some number =>
        cases finite : number.isFinite with
        | true => exact .inr (.inl ⟨number, view, finite⟩)
        | false => exact .inr (.inr ⟨absent, by simp [view, finite]⟩)

namespace IsPlace

variable {value : Value} {number : Number}

theorem present (place : value.IsPlace number) : value.isAbsent = false := by
  cases value with
  | absent => cases place.view
  | boolean | number | text => rfl

theorem key_eq (place : value.IsPlace number) :
    ∃ position, number.position = some position ∧ value.key = .place position := by
  have finite := place.finite
  cases number with
  | nan => cases finite
  | infinity negative => cases finite
  | finite negative magnitude =>
      refine ⟨_, rfl, ?_⟩
      rw [key, place.present, place.view]
      rfl

/-- The text of a value with a finite numeric view has a numeric view, too. -/
theorem text_view (place : value.IsPlace number) :
    ∃ read, (text value.asText).asNumber? = some read := by
  cases value with
  | boolean | absent => cases place.view
  | number value =>
      cases place.view
      rcases asNumber?_text_of_finite place.finite with ⟨read, found, -⟩
      exact ⟨read, found⟩
  | text content => exact ⟨number, place.view⟩

end IsPlace

namespace IsWords

variable {value : Value}

theorem key_eq (words : value.IsWords) : value.key = .words value.asText := by
  rw [key, words.present, if_neg Bool.false_ne_true]
  split
  · next negative magnitude view =>
    cases words.endless _ view
  · rfl

/-- Only a number can have a numeric view that is not finite. -/
theorem view (words : value.IsWords) :
    value.asNumber? = none ∨ ∃ number, value = .number number ∧ number.isFinite = false := by
  cases value with
  | boolean | absent => exact .inl rfl
  | number number => exact .inr ⟨number, rfl, words.endless number rfl⟩
  | text content =>
      left
      rw [Option.eq_none_iff_forall_ne_some]
      intro number found
      obtain ⟨-, -, -, -, -, -, -, -, finite⟩ := asNumber?_text_eq_some_iff.mp found
      rw [words.endless number found] at finite
      cases finite

/-- The text of such a value is no number. -/
theorem text_view (words : value.IsWords) : (text value.asText).asNumber? = none := by
  rcases words.view with none | ⟨number, rfl, endless⟩
  · cases value with
    | boolean truth => cases truth <;> decide
    | number number => cases none
    | text content => exact none
    | absent => cases words.present
  · cases number with
    | nan => decide
    | infinity negative => cases negative <;> decide
    | finite => cases endless

end IsWords

/-! ## Equality of keys -/

variable {first second : Value} {left right : Number}

theorem looselyEquals_comm (first second : Value) :
    first.looselyEquals second = second.looselyEquals first := by
  rw [looselyEquals_eq, looselyEquals_eq, Bool.or_comm second.isAbsent,
    Bool.and_comm second.isAbsent]
  cases first.asNumber? with
  | none => cases second.asNumber? <;> rw [Bool.beq_comm]
  | some number =>
      cases second.asNumber? with
      | none => rw [Bool.beq_comm]
      | some number' => dsimp only; rw [Number.equals_comm]

theorem looselyEquals_of_present (present : first.isAbsent = false)
    (present' : second.isAbsent = false) :
    first.looselyEquals second =
      match first.asNumber?, second.asNumber? with
      | some left, some right => left.equals right
      | _, _ => first.asText == second.asText := by
  rw [looselyEquals_eq, present, present']
  rfl

theorem looselyEquals_places (place : first.IsPlace left) (place' : second.IsPlace right) :
    first.looselyEquals second = true ↔ left.position = right.position := by
  rw [looselyEquals_of_present place.present place'.present, place.view, place'.view]
  dsimp only
  rw [Number.equals_iff, and_iff_left]
  rintro rfl
  cases place.finite

/-- No finite number is loosely equal to what is compared as a text. -/
theorem looselyEquals_place_words (place : first.IsPlace left) (words : second.IsWords) :
    first.looselyEquals second = false := by
  rw [looselyEquals_of_present place.present words.present, place.view]
  cases view : second.asNumber? with
  | some number => exact Number.equals_of_finite place.finite (words.endless number view)
  | none =>
      rw [beq_eq_false_iff_ne]
      intro same
      obtain ⟨read, found⟩ := place.text_view
      rw [same, words.text_view] at found
      cases found

/-- Numbers that are not finite are equal where their texts are, except for two `nan`. -/
theorem equals_iff_of_endless (endless : left.isFinite = false)
    (endless' : right.isFinite = false) :
    left.equals right = true ↔
      numberText left = numberText right ∧ ¬(left = .nan ∧ right = .nan) := by
  cases left with
  | finite => cases endless
  | nan =>
      cases right with
      | finite => cases endless'
      | nan => decide +kernel
      | infinity negative' => cases negative' <;> decide +kernel
  | infinity negative =>
      cases right with
      | finite => cases endless'
      | nan => cases negative <;> decide +kernel
      | infinity negative' => cases negative <;> cases negative' <;> decide +kernel

theorem looselyEquals_words (words : first.IsWords) (words' : second.IsWords) :
    first.looselyEquals second = true ↔
      first.asText = second.asText ∧ ¬(first = .number .nan ∧ second = .number .nan) := by
  rw [looselyEquals_of_present words.present words'.present]
  rcases words.view with none | ⟨left, rfl, endless⟩
  · rw [none, beq_iff_eq, and_iff_left]
    rintro ⟨rfl, -⟩
    cases none
  · rcases words'.view with none | ⟨right, rfl, endless'⟩
    · rw [none]
      show ((number left).asText == second.asText) = true ↔ _
      rw [beq_iff_eq, and_iff_left]
      rintro ⟨-, rfl⟩
      cases none
    · show left.equals right = true ↔ numberText left = numberText right ∧ _
      rw [equals_iff_of_endless endless endless', number.injEq, number.injEq]

theorem looselyEquals_absent (present : second.isAbsent = false) :
    Value.absent.looselyEquals second = false := by
  rw [looselyEquals_eq, present]
  rfl

theorem key_ne_absent (present : first.isAbsent = false) : first.key ≠ .absent := by
  rw [key, present, if_neg Bool.false_ne_true]
  split <;> exact Key.noConfusion

theorem key_ne_of_place_words (place : first.IsPlace left) (words : second.IsWords) :
    first.key ≠ second.key := by
  rcases place.key_eq with ⟨position, -, same⟩
  rw [same, words.key_eq]
  exact Key.noConfusion

/-- Values are loosely equal where their keys are the same, except for two `nan`. -/
theorem looselyEquals_iff :
    first.looselyEquals second = true ↔
      first.key = second.key ∧ ¬(first = .number .nan ∧ second = .number .nan) := by
  have differ {first second : Value} (apart : first.looselyEquals second = false)
      (keys : first.key ≠ second.key) :
      first.looselyEquals second = true ↔
        first.key = second.key ∧ ¬(first = .number .nan ∧ second = .number .nan) :=
    iff_of_false (Bool.eq_false_iff.mp apart) fun both => keys both.1
  rcases key_cases first with rfl | ⟨left, place⟩ | words
  · rcases key_cases second with rfl | ⟨right, place'⟩ | words'
    · decide
    · exact differ (looselyEquals_absent place'.present) (key_ne_absent place'.present).symm
    · exact differ (looselyEquals_absent words'.present) (key_ne_absent words'.present).symm
  · rcases key_cases second with rfl | ⟨right, place'⟩ | words'
    · refine differ ?_ (key_ne_absent place.present)
      rw [looselyEquals_comm, looselyEquals_absent place.present]
    · rcases place.key_eq with ⟨position, found, same⟩
      rcases place'.key_eq with ⟨position', found', same'⟩
      rw [looselyEquals_places place place', found, found', same, same', Option.some_inj,
        Key.place.injEq, and_iff_left]
      rintro ⟨rfl, -⟩
      cases place.view
      cases place.finite
    · exact differ (looselyEquals_place_words place words') (key_ne_of_place_words place words')
  · rcases key_cases second with rfl | ⟨right, place'⟩ | words'
    · refine differ ?_ (key_ne_absent words.present)
      rw [looselyEquals_comm, looselyEquals_absent words.present]
    · refine differ ?_ (key_ne_of_place_words place' words).symm
      rw [looselyEquals_comm, looselyEquals_place_words place' words]
    · rw [looselyEquals_words words words', words.key_eq, words'.key_eq, Key.words.injEq]

/-! ## An equivalence -/

/--
Loose equality is symmetric, and it is reflexive and transitive on all values but `nan`.  The text
of a finite number has a numeric view, and it equals the number.
-/
theorem looselyEquals_equivalence :
    (∀ first second : Value, first.looselyEquals second = second.looselyEquals first) ∧
    (∀ value : Value, value ≠ .number .nan → value.looselyEquals value = true) ∧
    (∀ first second third : Value,
      first ≠ .number .nan → second ≠ .number .nan → third ≠ .number .nan →
        first.looselyEquals second = true → second.looselyEquals third = true →
          first.looselyEquals third = true) ∧
    ∀ value : Number, value.isFinite = true →
      ∃ read,
        (text (number value).asText).asNumber? = some read ∧ read.equals value = true := by
  refine ⟨looselyEquals_comm, ?_, ?_, ?_⟩
  · intro value proper
    exact looselyEquals_iff.mpr ⟨rfl, fun both => proper both.1⟩
  · intro first second third proper _ _ before after
    have same := (looselyEquals_iff.mp before).1.trans (looselyEquals_iff.mp after).1
    exact looselyEquals_iff.mpr ⟨same, fun both => proper both.1⟩
  · intro value finite
    obtain ⟨read, found, finite', position⟩ := asNumber?_text_of_finite finite
    refine ⟨read, found, Number.equals_iff.mpr ⟨position, ?_⟩⟩
    rintro rfl
    cases finite'

/-- Negative zero, a zero with blanks around it and one with a sign. -/
theorem looselyEquals_equivalence_zeros :
    (number (.zero true)).looselyEquals (text " 0.0 ") = true ∧
    (text " 0.0 ").looselyEquals (text "-0") = true ∧
    (number (.zero true)).looselyEquals (text "-0") = true ∧
    (text "-0").looselyEquals (number (.zero true)) = true ∧
    ∃ read,
      (text (number (.zero true)).asText).asNumber? = some read ∧
        read.equals (.zero true) = true := by
  obtain ⟨symmetric, reflexive, transitive, texts⟩ := looselyEquals_equivalence
  have before : (number (.zero true)).looselyEquals (text " 0.0 ") = true := by decide +kernel
  have after : (text " 0.0 ").looselyEquals (text "-0") = true := by decide +kernel
  have same : (number (.zero true)).looselyEquals (text "-0") = true :=
    transitive _ _ _ (by decide +kernel) (by decide) (by decide) before after
  exact ⟨before, after, same, (symmetric _ _).trans same, texts (.zero true) rfl⟩

end Value

end Vigil
