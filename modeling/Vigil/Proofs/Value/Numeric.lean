import Vigil.Proofs.Number.Notation

/-!
# The numeric view of texts

A text has a numeric view exactly if it is a numeral, perhaps with a minus sign in front of it and
with blanks around, and the number is finite: `Value.asNumber?_text_eq_some_iff`.  So the text view
of a finite number has one, and it is at the position of this number; the sign of zero is lost.
-/

namespace Vigil

/-! ## Blanks around a text -/

namespace Text

/-- Only blanks are taken away from the ends of a text. -/
theorem exists_trimmed (characters : List Char) :
    ∃ before after,
      characters = before ++ trimEnd (trimStart characters) ++ after ∧
        (∀ character ∈ before, isBlank character = true) ∧
          ∀ character ∈ after, isBlank character = true := by
  have blanks (row : List Char) : ∀ character ∈ row.takeWhile isBlank, isBlank character = true :=
    List.all_eq_true.mp List.all_takeWhile
  refine ⟨characters.takeWhile isBlank, ((trimStart characters).reverse.takeWhile isBlank).reverse,
    ?_, blanks characters, ?_⟩
  · rw [List.append_assoc, trimEnd, ← List.reverse_append, List.takeWhile_append_dropWhile,
      List.reverse_reverse, trimStart, List.takeWhile_append_dropWhile]
  · intro character member
    exact blanks _ character (List.mem_reverse.mp member)

/-- A text that begins and ends with no blank is what is left of it with blanks around. -/
theorem trim_blanks {before inner after : List Char}
    (blank : ∀ character ∈ before, isBlank character = true)
    (blank' : ∀ character ∈ after, isBlank character = true)
    (inhabited : inner ≠ []) (visible : ∀ character ∈ inner, isBlank character = false) :
    trimEnd (trimStart (before ++ inner ++ after)) = inner := by
  have starts : ∀ next ∈ (inner ++ after).head?, isBlank next = false := by
    intro next member
    obtain ⟨first, more, rfl⟩ := List.exists_cons_of_ne_nil inhabited
    cases member
    exact visible _ List.mem_cons_self
  have ends : ∀ next ∈ inner.reverse.head?, isBlank next = false := by
    intro next member
    exact visible next (List.mem_reverse.mp (List.mem_of_mem_head? member))
  have blank'' : ∀ character ∈ after.reverse, isBlank character = true := by
    intro character member
    exact blank' character (List.mem_reverse.mp member)
  rw [trimStart, List.append_assoc, Token.dropWhile_row blank starts, trimEnd,
    List.reverse_append, Token.dropWhile_row blank'' ends, List.reverse_reverse]

end Text

/-! ## Numerals with a sign -/

namespace Numeral

/-- A numeral with a minus sign in front of it, or without one. -/
def signed (negative : Bool) (numeral : Numeral) : List Char :=
  if negative then '-' :: numeral.text else numeral.text

theorem head_ne_minus (numeral : Numeral) (rest : List Char) : numeral.text ≠ '-' :: rest := by
  rcases numeral.starts with ⟨first, more, same, digit⟩
  rw [same]
  rintro ⟨⟩
  revert digit
  decide

theorem visible (numeral : Numeral) :
    ∀ character ∈ numeral.text, Text.isBlank character = false := by
  have row (digits : Digits) : ∀ character ∈ digits.characters, Text.isBlank character = false :=
    fun character member => Decimal.isBlank_of_isDigit (digits.isDigit character member)
  cases numeral with
  | whole digits => exact row digits
  | point digits places =>
      exact List.forall_mem_append.mpr
        ⟨row digits, List.forall_mem_cons.mpr ⟨by decide, row places⟩⟩

theorem signed_visible (negative : Bool) (numeral : Numeral) :
    ∀ character ∈ numeral.signed negative, Text.isBlank character = false := by
  cases negative with
  | false => exact numeral.visible
  | true => exact List.forall_mem_cons.mpr ⟨by decide, numeral.visible⟩

theorem signed_ne_nil (negative : Bool) (numeral : Numeral) : numeral.signed negative ≠ [] := by
  cases negative with
  | false =>
      rcases numeral.starts with ⟨first, more, same, -⟩
      rw [signed, if_neg Bool.false_ne_true, same]
      exact List.cons_ne_nil first more
  | true => exact List.cons_ne_nil _ _

end Numeral

/-! ## Numeric views -/

namespace Value

/-- A numeral with a sign is read as a number, unless this is too large. -/
theorem numberOf?_signed (negative : Bool) (numeral : Numeral) :
    numberOf? (numeral.signed negative) =
      (some (numeral.decimal.toNumber negative)).filter Number.isFinite := by
  cases negative with
  | true =>
      show ((Decimal.read? numeral.text).map (Decimal.toNumber true)).filter _ = _
      rw [numeral.read?_text]
      rfl
  | false =>
      rw [Numeral.signed, if_neg Bool.false_ne_true]
      unfold numberOf?
      split
      · next digits same => exact absurd same (numeral.head_ne_minus digits)
      · rw [numeral.read?_text]
        rfl

/-- What is read as a number without its blanks is a numeral with a sign. -/
theorem exists_numeral_of_numberOf? {characters : List Char} {number : Number}
    (found : numberOf? characters = some number) :
    ∃ (negative : Bool) (numeral : Numeral),
      characters = numeral.signed negative ∧ numeral.decimal.toNumber negative = number := by
  unfold numberOf? at found
  dsimp only at found
  obtain ⟨found, -⟩ := Option.filter_eq_some_iff.mp found
  split at found
  · next digits =>
    rw [Option.map_eq_some_iff] at found
    obtain ⟨decimal, found, same⟩ := found
    rcases Decimal.read?_eq_some_iff.mp found with ⟨numeral, rfl, rfl⟩
    exact ⟨true, numeral, rfl, same⟩
  · rw [Option.map_eq_some_iff] at found
    obtain ⟨decimal, found, same⟩ := found
    rcases Decimal.read?_eq_some_iff.mp found with ⟨numeral, rfl, rfl⟩
    exact ⟨false, numeral, rfl, same⟩

section Blanks

variable {content : String} {before after : List Char} {negative : Bool} {numeral : Numeral}
variable (whole : content.toList = before ++ numeral.signed negative ++ after)
variable (blank : ∀ character ∈ before, Text.isBlank character = true)
variable (blank' : ∀ character ∈ after, Text.isBlank character = true)
include whole blank blank'

theorem trim_of_signed : (Text.trim content).toList = numeral.signed negative := by
  rw [Text.trim, String.toList_ofList, whole]
  exact Text.trim_blanks blank blank' (numeral.signed_ne_nil negative)
    (numeral.signed_visible negative)

theorem asNumber?_of_signed :
    (text content).asNumber? =
      (some (numeral.decimal.toNumber negative)).filter Number.isFinite := by
  rw [asNumber?, trim_of_signed whole blank blank', numberOf?_signed]

end Blanks

/-- The texts with a numeric view are the numerals with a sign and with blanks around. -/
theorem asNumber?_text_eq_some_iff {content : String} {number : Number} :
    (text content).asNumber? = some number ↔
      ∃ (negative : Bool) (numeral : Numeral) (before after : List Char),
        content.toList = before ++ numeral.signed negative ++ after ∧
          (∀ character ∈ before, Text.isBlank character = true) ∧
          (∀ character ∈ after, Text.isBlank character = true) ∧
          numeral.decimal.toNumber negative = number ∧ number.isFinite = true := by
  constructor
  · intro found
    have finite := (Option.filter_eq_some_iff.mp found).2
    rw [asNumber?, Text.trim, String.toList_ofList] at found
    obtain ⟨negative, numeral, inner, same⟩ := exists_numeral_of_numberOf? found
    obtain ⟨before, after, whole, blank, blank'⟩ := Text.exists_trimmed content.toList
    rw [inner] at whole
    exact ⟨negative, numeral, before, after, whole, blank, blank', same, finite⟩
  · rintro ⟨negative, numeral, before, after, whole, blank, blank', rfl, finite⟩
    rw [asNumber?_of_signed whole blank blank', Option.filter_some, if_pos finite]

/-! ## The texts of numbers -/

/-- The text of a finite number is a numeral for it; that of negative zero has no sign. -/
theorem exists_numeral_of_finite (negative : Bool) (magnitude : Magnitude) :
    ∃ numeral : Numeral,
      (numberText (.finite negative magnitude)).toList =
          numeral.signed (negative && magnitude.steps != 0) ∧
        ∀ sign, numeral.decimal.toNumber sign = .finite sign magnitude := by
  obtain ⟨numeral, written, quotient⟩ := Decimal.exists_numeral (Decimal.shortest .larger magnitude)
  refine ⟨numeral, ?_, ?_⟩
  · rw [numberText, String.toList_ofList, ← written]
    rfl
  · intro sign
    rw [Decimal.toNumber, quotient]
    exact Decimal.toNumber_of_readsAs (Decimal.readsAs_shortest .larger magnitude) sign

/-- The text of a finite number has a numeric view, which is at the position of the number. -/
theorem asNumber?_text_of_finite {value : Number} (finite : value.isFinite = true) :
    ∃ read,
      (text (number value).asText).asNumber? = some read ∧ read.isFinite = true ∧
        read.position = value.position := by
  cases value with
  | nan => cases finite
  | infinity negative => cases finite
  | finite negative magnitude =>
      obtain ⟨numeral, written, denotes⟩ := exists_numeral_of_finite negative magnitude
      refine ⟨.finite (negative && magnitude.steps != 0) magnitude, ?_, rfl, ?_⟩
      · rw [asNumber?_text_eq_some_iff]
        have whole : (number (.finite negative magnitude)).asText.toList =
            [] ++ numeral.signed (negative && magnitude.steps != 0) ++ [] := by
          simpa [asText] using written
        exact ⟨_, numeral, [], [], whole, by simp, by simp, denotes _, rfl⟩
      · by_cases nothing : magnitude.steps = 0
        · simp [Number.position, Number.signed, nothing]
        · have counted : (magnitude.steps != 0) = true := bne_iff_ne.mpr nothing
          rw [counted, Bool.and_true]

end Value

end Vigil
