import Vigil.Proofs.Expr.Draft
import Vigil.Proofs.Number.Shortest

/-!
# Numerals

`Decimal.read?` accepts the numerals, and nothing else.  Plain notation of a decimal is a numeral,
too: `Decimal.exists_numeral` finds the numeral, and its decimal is the same quotient, although
zeros may have come to its digits.
-/

namespace Vigil

namespace Decimal

/-! ## Reading numerals -/

theorem exists_numeral_of_read? {text : List Char} {decimal : Decimal}
    (found : read? text = some decimal) :
    ∃ numeral : Numeral, numeral.text = text ∧ numeral.decimal = decimal := by
  have parts := List.takeWhile_append_dropWhile (p := isDigit) (l := text)
  have digits : ∀ character ∈ text.takeWhile isDigit, isDigit character = true :=
    List.all_eq_true.mp List.all_takeWhile
  unfold read? at found
  dsimp only at found
  split at found
  · cases found
  · next inhabited =>
    rw [List.isEmpty_iff] at inhabited
    let whole : Digits := ⟨text.takeWhile isDigit, inhabited, digits⟩
    split at found
    · next remaining =>
      cases found
      rw [remaining, List.append_nil] at parts
      exact ⟨.whole whole, parts, rfl⟩
    · next fraction remaining =>
      split at found
      · next places =>
        cases found
        rw [Bool.and_eq_true, Bool.not_eq_true', List.isEmpty_eq_false_iff, List.all_eq_true]
          at places
        rw [remaining] at parts
        exact ⟨.point whole ⟨fraction, places.1, places.2⟩, parts, rfl⟩
      · cases found
    · cases found

/-- What is read as a decimal are the numerals. -/
theorem read?_eq_some_iff {text : List Char} {decimal : Decimal} :
    read? text = some decimal ↔
      ∃ numeral : Numeral, numeral.text = text ∧ numeral.decimal = decimal := by
  constructor
  · exact exists_numeral_of_read?
  · rintro ⟨numeral, rfl, rfl⟩
    exact numeral.read?_text

/-! ## Rows of digits -/

theorem digitsValue_eq (value : Nat) (digits : List Char) :
    digitsValue value digits = Nat.ofDigitChars 10 digits value := by
  rw [Nat.ofDigitChars_eq_foldl]
  induction digits generalizing value with
  | nil => rfl
  | cons digit rest induction => exact induction _

theorem digitsOf_eq (value : Nat) : digitsOf value = Nat.toDigits 10 value :=
  Nat.toList_repr

/-- The digits of a number denote it, and zeros in front of them make no difference. -/
theorem digitsValue_zeros_digitsOf (count value : Nat) :
    digitsValue 0 (List.replicate count '0' ++ digitsOf value) = value := by
  rw [digitsValue_eq, digitsOf_eq, Nat.ofDigitChars_append, Nat.ofDigitChars_replicate_zero,
    Nat.mul_zero, Nat.ofDigitChars_ten_toDigits]

theorem digitsValue_digitsOf (value : Nat) : digitsValue 0 (digitsOf value) = value :=
  digitsValue_zeros_digitsOf 0 value

/-- Zeros behind the digits of a number multiply it by ten each. -/
theorem digitsValue_digitsOf_zeros (value count : Nat) :
    digitsValue 0 (digitsOf value ++ List.replicate count '0') = value * tenTo count := by
  rw [digitsValue_eq, digitsOf_eq, Nat.ofDigitChars_append, Nat.ofDigitChars_ten_toDigits,
    Nat.ofDigitChars_replicate_zero]
  exact Nat.mul_comm _ _

theorem digitsOf_ne_nil (value : Nat) : digitsOf value ≠ [] := by
  rw [digitsOf_eq]
  exact Nat.toDigits_ne_nil

theorem isDigit_of_mem_digitsOf {value : Nat} :
    ∀ character ∈ digitsOf value, isDigit character = true := by
  intro character member
  rw [digitsOf_eq] at member
  exact Nat.isDigit_of_mem_toDigits (by decide) (by decide) member

theorem isDigit_of_mem_zeros {count : Nat} :
    ∀ character ∈ List.replicate count '0', isDigit character = true := by
  intro character member
  rw [List.eq_of_mem_replicate member]
  decide

/-! ## Plain notation -/

/-- A numeral with a point in the terms of its two rows of digits. -/
theorem decimal_point {whole places : Digits} {value power : Nat}
    (row : digitsValue 0 (whole.characters ++ places.characters) = value)
    (count : places.characters.length = power + 1) :
    (Numeral.point whole places).decimal = ⟨value, .negSucc power⟩ := by
  rw [Numeral.decimal, row, count]
  rfl

theorem quotient_whole (value power : Nat) :
    quotient ⟨value * tenTo power, 0⟩ = quotient ⟨value, .ofNat power⟩ := by
  have further := quotient_ofNat (value * tenTo power) 0
  rw [tenTo_zero, Nat.mul_one] at further
  rw [quotient_ofNat]
  exact further

/-- Plain notation of a decimal is a numeral for the same quotient. -/
theorem exists_numeral (decimal : Decimal) :
    ∃ numeral : Numeral,
      numeral.text = decimal.positional ∧ numeral.decimal.quotient = decimal.quotient := by
  obtain ⟨value, exponent⟩ := decimal
  have digits := @isDigit_of_mem_digitsOf value
  have inhabited := digitsOf_ne_nil value
  cases exponent with
  | ofNat power =>
      let whole : Digits :=
        ⟨digitsOf value ++ List.replicate power '0', by simp [inhabited],
          List.forall_mem_append.mpr ⟨digits, isDigit_of_mem_zeros⟩⟩
      have row : (Numeral.whole whole).decimal = ⟨value * tenTo power, 0⟩ := by
        rw [Numeral.decimal, digitsValue_digitsOf_zeros]
      exact ⟨.whole whole, rfl, by rw [row, quotient_whole]⟩
  | negSucc power =>
      rw [positional]
      dsimp only
      split
      · next shorter =>
        let whole : Digits :=
          ⟨(digitsOf value).take ((digitsOf value).length - (power + 1)), by
            rw [← List.length_pos_iff, List.length_take]
            omega, fun digit member => digits digit (List.mem_of_mem_take member)⟩
        let places : Digits :=
          ⟨(digitsOf value).drop ((digitsOf value).length - (power + 1)), by
            rw [← List.length_pos_iff, List.length_drop]
            omega, fun digit member => digits digit (List.mem_of_mem_drop member)⟩
        have row : digitsValue 0 (whole.characters ++ places.characters) = value := by
          rw [List.take_append_drop, digitsValue_digitsOf]
        have count : places.characters.length = power + 1 := by
          rw [List.length_drop]
          omega
        exact ⟨.point whole places, rfl, by rw [decimal_point row count]⟩
      · next longer =>
        let places : Digits :=
          ⟨List.replicate (power + 1 - (digitsOf value).length) '0' ++ digitsOf value,
            by simp [inhabited], List.forall_mem_append.mpr ⟨isDigit_of_mem_zeros, digits⟩⟩
        let whole : Digits := ⟨['0'], List.cons_ne_nil _ _, @isDigit_of_mem_zeros 1⟩
        have row : digitsValue 0 (whole.characters ++ places.characters) = value :=
          digitsValue_zeros_digitsOf (power + 1 - (digitsOf value).length + 1) value
        have count : places.characters.length = power + 1 := by
          rw [List.length_append, List.length_replicate]
          omega
        exact ⟨.point whole places, rfl, by rw [decimal_point row count]⟩

end Decimal

end Vigil
