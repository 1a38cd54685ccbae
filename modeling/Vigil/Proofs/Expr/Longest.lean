import Vigil.Proofs.Expr.Scanning

/-!
# Longest tokens

What one token is, said without the scanner.  `Token.Lexes` takes a token together with the
characters that follow it, because a token is the longest that starts at its place, and a name is
a function where a parenthesis opens next, blanks apart.  The scanner takes such tokens off the
front of a text, and no others (`Token.lexes_of_next`, `Token.Lexes.next`).

The characters that follow can be exchanged: `Token.Lexes.before` says that a token stays what it
is before a blank, and before anything that begins as what followed it.
-/

namespace Vigil

/-! ## Names and what follows them -/

/-- Whether the first of some characters that is not blank opens a parenthesis. -/
def Text.opens (following : List Char) : Bool :=
  (Text.trimStart following).head? == some '('

@[simp]
theorem Text.opens_nil : Text.opens [] = false :=
  rfl

theorem Text.opens_cons_of_blank {character : Char} (isBlank : Text.isBlank character = true)
    (following : List Char) : Text.opens (character :: following) = Text.opens following := by
  simp [Text.opens, Text.trimStart, isBlank]

theorem Text.opens_cons_of_visible {character : Char} (visible : Text.isBlank character = false)
    (following : List Char) : Text.opens (character :: following) = (character == '(') := by
  simp [Text.opens, Text.trimStart, visible]

/-- Whether tokens of a kind are words that are not reserved. -/
def TokenKind.isName : TokenKind → Bool
  | identifier | function => true
  | _ => false

/-- The kind of a token where it is followed by other characters than it was. -/
def TokenKind.before (following : List Char) (kind : TokenKind) : TokenKind :=
  if kind.isName then
    if Text.opens following then .function else .identifier
  else
    kind

theorem TokenKind.before_of_not_name {kind : TokenKind} (other : kind.isName = false)
    (following : List Char) : kind.before following = kind := by
  rw [before, other, if_neg Bool.false_ne_true]

theorem TokenKind.before_congr {first second : List Char}
    (same : Text.opens first = Text.opens second) (kind : TokenKind) :
    kind.before first = kind.before second := by
  rw [before, before, same]

namespace Token

theorem wordKind_eq (word following : List Char) :
    wordKind word following =
      match Keyword.ofWord? word with
      | some (.boolean _) => .boolean
      | some (.operator written) => .operator written
      | none => if Text.opens following then .function else .identifier := by
  rw [wordKind]
  cases Keyword.ofWord? word with
  | some keyword => cases keyword <;> rfl
  | none =>
      rw [Text.opens]
      cases trimmed : Text.trimStart following with
      | nil => rfl
      | cons first rest =>
          by_cases opened : first = '('
          · simp [opened]
          · simp [opened]

/-- Numbers and strings are no words. -/
theorem wordKind_ne_literal {kind : TokenKind} (literal : kind = .number ∨ kind = .string)
    (word following : List Char) : wordKind word following ≠ kind := by
  rw [wordKind_eq]
  cases Keyword.ofWord? word with
  | some keyword => cases keyword <;> rcases literal with rfl | rfl <;> simp
  | none => cases Text.opens following <;> rcases literal with rfl | rfl <;> simp

theorem wordKind_before (word following other : List Char) :
    (wordKind word following).before other = wordKind word other := by
  rw [wordKind_eq, wordKind_eq]
  cases Keyword.ofWord? word with
  | some keyword => cases keyword <;> rfl
  | none => cases Text.opens following <;> rfl

/-! ## One token -/

/--
`Lexes kind value text following` says that the characters of `text` are one token, the longest
there where some characters follow, and what its kind and value are.
-/
inductive Lexes : TokenKind → List Char → List Char → List Char → Prop where
  | string {mark : Mark} {value body following : List Char}
      (closed :
        stringBody mark.character (body ++ following) = some (value, body, following)) :
      Lexes .string value (mark.character :: body) following
  | number {numeral : Numeral} {following : List Char}
      (longest : numberPart (numeral.text ++ following) = (numeral.text, following)) :
      Lexes .number numeral.text numeral.text following
  | word {first : Char} {more following : List Char}
      (start : Name.isStart first = true)
      (parts : ∀ character ∈ more, Name.isPart character = true)
      (ends : ∀ next ∈ following.head?, Name.isPart next = false) :
      Lexes (wordKind (first :: more) following) (first :: more) (first :: more) following
  | leftParen {following : List Char} : Lexes .leftParen ['('] ['('] following
  | rightParen {following : List Char} : Lexes .rightParen [')'] [')'] following
  | comma {following : List Char} : Lexes .comma [','] [','] following
  | operator {written : Operator} {text following : List Char}
      (longest : spelling? (text ++ following) = some (text, written)) :
      Lexes (.operator written) text text following

/-- A number part is a numeral, and no further digit follows it. -/
theorem numberPart_eq {first : Char} (digit : Decimal.isDigit first = true) (rest : List Char) :
    (∃ numeral : Numeral, numeral.text = (numberPart (first :: rest)).1) ∧
      ∀ next ∈ (numberPart (first :: rest)).2.head?, Decimal.isDigit next = false := by
  have ends (row : List Char) :
      ∀ next ∈ (row.dropWhile Decimal.isDigit).head?, Decimal.isDigit next = false := by
    intro next member
    have := List.head?_dropWhile_not Decimal.isDigit row
    rw [Option.mem_def.mp member] at this
    exact this
  have digits (row : List Char) :
      ∀ character ∈ row.takeWhile Decimal.isDigit, Decimal.isDigit character = true :=
    List.all_eq_true.mp List.all_takeWhile
  let whole : Digits :=
    ⟨(first :: rest).takeWhile Decimal.isDigit, by simp [digit], digits _⟩
  unfold numberPart
  dsimp only
  split
  · next next more remaining =>
    split
    · next further =>
      let places : Digits :=
        ⟨(next :: more).takeWhile Decimal.isDigit, by simp [further], digits _⟩
      exact ⟨⟨.point whole places, rfl⟩, ends _⟩
    · refine ⟨⟨.whole whole, rfl⟩, ?_⟩
      intro next member
      cases member
      decide
  · exact ⟨⟨.whole whole, rfl⟩, ends _⟩

/-- What the scanner takes off the front of a text is a token there. -/
theorem lexes_of_next {first : Char} {rest value text after : List Char} {kind : TokenKind}
    (found : next first rest = .lexeme kind value text after) :
    Lexes kind value text after := by
  have whole := (next_lexeme found).1
  unfold next at found
  dsimp only at found
  split at found
  · next isMark =>
    split at found
    · next read =>
      cases found
      rw [stringBody_append read] at read
      rcases isMark with rfl | rfl
      · exact @Lexes.string .double _ _ _ read
      · exact @Lexes.string .single _ _ _ read
    · cases found
  · split at found
    · next digit =>
      cases found
      rcases numberPart_eq digit rest with ⟨⟨numeral, same⟩, -⟩
      rw [← same] at whole ⊢
      apply Lexes.number
      rw [← whole]
      exact Prod.ext same.symm rfl
    · split at found
      · next start =>
        cases found
        refine .word start (List.all_eq_true.mp List.all_takeWhile) ?_
        intro next member
        have := List.head?_dropWhile_not Name.isPart rest
        rw [Option.mem_def.mp member] at this
        exact this
      · split at found
        · next opened =>
          subst opened
          cases found
          exact .leftParen
        · split at found
          · next closed =>
            subst closed
            cases found
            exact .rightParen
          · split at found
            · next separated =>
              subst separated
              cases found
              exact .comma
            · split at found
              · next read =>
                cases found
                refine .operator ?_
                rw [← whole]
                exact read
              · cases found

/-- The symbols of operators, and how they are told from the other tokens. -/
theorem first_of_spelling? {text following : List Char} {written : Operator}
    (found : spelling? (text ++ following) = some (text, written)) :
    ∃ first more,
      text = first :: more ∧ Text.isBlank first = false ∧ ¬(first = '"' ∨ first = '\'') ∧
        Decimal.isDigit first = false ∧ Name.isStart first = false ∧ first ≠ '(' ∧
          first ≠ ')' ∧ first ≠ ',' ∧ first ≠ '.' := by
  have listed : (text, written) ∈ spellings := List.mem_of_find?_eq_some found
  let symbol (first : Char) : Bool :=
    !Text.isBlank first && first != '"' && first != '\'' && !Decimal.isDigit first &&
      !Name.isStart first && first != '(' && first != ')' && first != ',' && first != '.'
  have each : ∀ entry ∈ spellings, entry.1.head?.any symbol = true := by decide
  obtain ⟨first, starts, isSymbol⟩ := (Option.any_eq_true _ _).mp (each _ listed)
  rcases List.head?_eq_some_iff.mp starts with ⟨more, same⟩
  exact ⟨first, more, same, by simpa [symbol, and_assoc] using isSymbol⟩

namespace Lexes

variable {kind : TokenKind} {value text following : List Char}

/-- A token starts with a character that is neither blank nor a point. -/
theorem starts (lexes : Lexes kind value text following) :
    ∃ first more, text = first :: more ∧ Text.isBlank first = false ∧ first ≠ '.' := by
  cases lexes with
  | @string mark => exact ⟨_, _, rfl, by cases mark <;> decide, by cases mark <;> decide⟩
  | @number numeral =>
      rcases numeral.starts with ⟨first, more, same, digit⟩
      refine ⟨first, more, same, Decimal.isBlank_of_isDigit digit, ?_⟩
      rintro rfl
      cases digit
  | word start =>
      refine ⟨_, _, rfl, Name.isBlank_of_isStart start, ?_⟩
      rintro rfl
      cases start
  | leftParen | rightParen | comma => exact ⟨_, _, rfl, by decide, by decide⟩
  | operator longest =>
      obtain ⟨first, more, same, visible, -, -, -, -, -, -, noPoint⟩ := first_of_spelling? longest
      exact ⟨first, more, same, visible, noPoint⟩

/-- The scanner takes a token off the front of a text. -/
theorem next {first : Char} {more : List Char}
    (lexes : Lexes kind value (first :: more) following) :
    Token.next first (more ++ following) = .lexeme kind value (first :: more) following := by
  generalize whole : first :: more = text at lexes
  cases lexes with
  | @string mark value body following closed =>
      cases whole
      have isMark : mark.character = '"' ∨ mark.character = '\'' := by cases mark <;> decide
      rw [Token.next, if_pos isMark, closed]
  | @number numeral following longest =>
      rcases numeral.starts with ⟨head, tail, same, digit⟩
      rw [same] at whole longest ⊢
      cases whole
      rw [List.cons_append] at longest
      rw [Token.next, if_neg (Decimal.not_mark_of_isDigit digit), if_pos digit, longest]
  | word start parts ends =>
      cases whole
      exact next_of_word start parts ends
  | leftParen | rightParen | comma =>
      cases whole
      rfl
  | operator longest =>
      obtain ⟨head, tail, same, -, noMark, noDigit, noStart, noLeft, noRight, noComma, -⟩ :=
        first_of_spelling? longest
      rw [← whole] at same
      cases same
      subst whole
      rw [List.cons_append] at longest
      rw [Token.next, if_neg noMark, if_neg (by simp [noDigit]), if_neg (by simp [noStart]),
        if_neg noLeft, if_neg noRight, if_neg noComma, longest]
      simp

end Lexes

/-! ## One token before other characters -/

/-- Where a character is not a backslash that escapes the next one, it is no backslash. -/
theorem ne_backslash {first : Char} {rest : List Char}
    (notLast : first = '\\' → rest = [] → False)
    (notEscape : ∀ escaped more, first = '\\' → rest = escaped :: more → False) :
    first ≠ '\\' := by
  intro backslash
  cases rest with
  | nil => exact notLast backslash rfl
  | cons escaped more => exact notEscape escaped more backslash rfl

theorem stringBody_before {mark : Char} {characters value body after : List Char}
    (found : stringBody mark characters = some (value, body, after)) (other : List Char) :
    stringBody mark (body ++ other) = some (value, body, other) := by
  fun_induction stringBody mark characters generalizing value body after with
  | case1 => cases found
  | case2 => cases found
  | case3 escaped rest step =>
      obtain ⟨⟨_, _, _⟩, read, rebuilt⟩ := Option.bind_eq_some_iff.mp found
      cases rebuilt
      simp [stringBody, step read]
  | case4 rest notLast notEscape =>
      cases found
      simp [stringBody, ne_backslash notLast notEscape]
  | case5 character rest notLast notEscape unlike step =>
      obtain ⟨⟨_, _, _⟩, read, rebuilt⟩ := Option.bind_eq_some_iff.mp found
      cases rebuilt
      simp [stringBody, ne_backslash notLast notEscape, unlike, step read]

section Before

variable {kind : TokenKind} {value text following other : List Char}

/-- A symbol is not continued by a blank. -/
theorem spelling?_before {written : Operator}
    (found : spelling? (text ++ following) = some (text, written))
    (ends : ∀ next ∈ other.head?, Text.isBlank next = true ∨ next ∈ following.head?) :
    spelling? (text ++ other) = some (text, written) := by
  have short : ∀ entry ∈ spellings,
      entry.1.length ≤ 2 ∧ entry.1.all (!Text.isBlank ·) = true := by
    decide
  obtain ⟨first, more, begins, -⟩ := first_of_spelling? found
  obtain ⟨-, longer, rest, listed, fails⟩ := List.find?_eq_some_iff_append.mp found
  refine List.find?_eq_some_iff_append.mpr ⟨by simp, longer, rest, listed, ?_⟩
  intro entry member
  have fails := fails entry member
  have listed : entry ∈ spellings := by
    rw [listed]
    exact List.mem_append_left _ member
  simp only [Bool.not_eq_true', Bool.eq_false_iff, ne_eq, List.isPrefixOf_iff_prefix] at fails ⊢
  intro starts
  apply fails
  -- A spelling that goes on after the text does so with one character, which is not blank.
  rcases List.prefix_or_prefix_of_prefix starts (List.prefix_append text other) with
    inside | ⟨continued, same⟩
  · exact inside.trans (List.prefix_append text following)
  · rw [← same, List.prefix_append_right_inj] at starts ⊢
    obtain ⟨within, visible⟩ := short entry listed
    rw [← same] at within visible
    rw [List.all_eq_true] at visible
    rcases starts with ⟨beyond, rfl⟩
    rcases continued with _ | ⟨next, _ | ⟨second, more⟩⟩
    · exact List.nil_prefix
    · rcases ends next rfl with isBlank | member
      · have visible := visible next (by simp)
        rw [isBlank] at visible
        cases visible
      · rcases List.head?_eq_some_iff.mp member with ⟨rest, rfl⟩
        exact ⟨rest, rfl⟩
    · simp only [begins, List.length_append, List.length_cons] at within
      omega

/-- A number is not continued by a blank, nor a word. -/
theorem not_part_of_blank {character : Char} (isBlank : Text.isBlank character = true) :
    Decimal.isDigit character = false ∧ Name.isPart character = false ∧ character ≠ '.' := by
  have noDigit : Decimal.isDigit character = false := by
    rw [Bool.eq_false_iff]
    intro digit
    rw [Decimal.isBlank_of_isDigit digit] at isBlank
    cases isBlank
  have noStart : Name.isStart character = false := by
    rw [Bool.eq_false_iff]
    intro start
    rw [Name.isBlank_of_isStart start] at isBlank
    cases isBlank
  have noPoint : character ≠ '.' := by
    rintro rfl
    cases isBlank
  refine ⟨noDigit, ?_, noPoint⟩
  simp only [Name.isStart, Bool.or_eq_false_iff] at noStart
  simp only [Decimal.isDigit] at noDigit
  simp [Name.isPart, noStart, noDigit, noPoint]

/--
A token is the same where other characters follow that begin with a blank, or as those before
did; only a name may become a function or cease to be one.
-/
theorem Lexes.before (lexes : Lexes kind value text following)
    (ends : ∀ next ∈ other.head?,
      Text.isBlank next = true ∨ (next ∈ following.head? ∧ next ≠ '.')) :
    Lexes (kind.before other) value text other := by
  cases lexes with
  | string closed => exact .string (stringBody_before closed other)
  | @number numeral following longest =>
      rcases numeral.starts with ⟨first, more, same, digit⟩
      rw [same, List.cons_append] at longest
      have noDigit := (numberPart_eq digit (more ++ following)).2
      rw [longest] at noDigit
      refine .number (numberPart_numeral numeral ?_)
      intro next member
      rw [Bool.or_eq_false_iff, beq_eq_false_iff_ne]
      rcases ends next member with isBlank | ⟨member', noPoint⟩
      · exact ⟨(not_part_of_blank isBlank).1, (not_part_of_blank isBlank).2.2⟩
      · exact ⟨noDigit next member', noPoint⟩
  | word start parts ends' =>
      rw [wordKind_before]
      refine .word start parts ?_
      intro next member
      rcases ends next member with isBlank | ⟨member', -⟩
      · exact (not_part_of_blank isBlank).2.1
      · exact ends' next member'
  | leftParen => exact .leftParen
  | rightParen => exact .rightParen
  | comma => exact .comma
  | operator longest =>
      refine .operator (spelling?_before longest ?_)
      intro next member
      rcases ends next member with isBlank | ⟨member', -⟩
      · exact .inl isBlank
      · exact .inr member'

/-- The kind of a token is that which what follows gives it. -/
theorem Lexes.kind_before (lexes : Lexes kind value text following) :
    kind.before following = kind := by
  cases lexes with
  | word => rw [wordKind_before]
  | _ => rfl

/-- What is read as an opening parenthesis is one. -/
theorem Lexes.opens (lexes : Lexes kind value text following) (other : List Char) :
    Text.opens (text ++ other) = (kind == .leftParen) := by
  rcases lexes.starts with ⟨first, more, rfl, visible, -⟩
  rw [List.cons_append, Text.opens_cons_of_visible visible]
  generalize whole : first :: more = text at lexes
  cases lexes with
  | @string mark =>
      cases whole
      cases mark <;> rfl
  | @number numeral =>
      rcases numeral.starts with ⟨head, tail, same, digit⟩
      rw [same] at whole
      cases whole
      refine beq_eq_false_iff_ne.mpr ?_
      rintro rfl
      cases digit
  | @word head tail following start =>
      cases whole
      have noParen : first ≠ '(' := by
        rintro rfl
        cases start
      rw [beq_eq_false_iff_ne.mpr noParen, wordKind_eq]
      cases Keyword.ofWord? (first :: more) with
      | some keyword => cases keyword <;> rfl
      | none => cases Text.opens following <;> rfl
  | leftParen | rightParen | comma =>
      cases whole
      rfl
  | operator longest =>
      obtain ⟨head, tail, same, -, -, -, -, noParen, -⟩ := first_of_spelling? longest
      rw [← whole] at same
      cases same
      exact beq_eq_false_iff_ne.mpr noParen

end Before

end Token

end Vigil
