import Vigil.Proofs.Expr.Lexeme

/-!
# Scanning what is laid out

A lexeme is cut off the front of a text as a whole, provided that it ends there.  So whatever the
blanks between lexemes are, their text is scanned to the tokens that they write, which is
`Token.scan_of_laid`.  Of a name the scanner says that it is a function only where a parenthesis
follows; `Lexeme.Called` keeps other names out.
-/

namespace Vigil

/-! ## Scanning one lexeme -/

namespace Token

theorem stringBody_escape (mark : Mark) (content following : List Char) :
    stringBody mark.character (mark.escape content ++ mark.character :: following) =
      some (content, mark.escape content ++ [mark.character], following) := by
  have unescaped : mark.character ≠ '\\' := by cases mark <;> decide
  induction content with
  | nil => simp [Mark.escape, stringBody, unescaped]
  | cons character rest induction =>
      rw [Mark.escape]
      split
      · simp [stringBody, induction]
      · next plain =>
        rw [not_or] at plain
        simp [stringBody, induction, plain]

section Rows

variable {p : Char → Bool} {row following : List Char}
variable (all : ∀ character ∈ row, p character = true)
variable (ends : ∀ next ∈ following.head?, p next = false)
include all ends

theorem takeWhile_row : (row ++ following).takeWhile p = row := by
  rw [List.takeWhile_append_of_pos all]
  cases following with
  | nil => simp
  | cons next rest => simp [ends next rfl]

theorem dropWhile_row : (row ++ following).dropWhile p = following := by
  rw [List.dropWhile_append_of_pos all]
  cases following with
  | nil => simp
  | cons next rest => simp [ends next rfl]

end Rows

/-- A numeral is read as a whole where no digit or point follows. -/
theorem numberPart_numeral (numeral : Numeral) {following : List Char}
    (ends : ∀ next ∈ following.head?, (Decimal.isDigit next || next == '.') = false) :
    numberPart (numeral.text ++ following) = (numeral.text, following) := by
  have noDigit : ∀ next ∈ following.head?, Decimal.isDigit next = false := by
    intro next member
    simpa using (Bool.or_eq_false_iff.mp (ends next member)).1
  cases numeral with
  | whole digits =>
      rw [Numeral.text, numberPart, takeWhile_row digits.isDigit noDigit,
        dropWhile_row digits.isDigit noDigit]
      cases following with
      | nil => rfl
      | cons next rest =>
          have noPoint : next ≠ '.' := by
            intro point
            simpa [point] using ends next rfl
          split
          · next same =>
            cases same
            exact absurd rfl noPoint
          · rfl
  | point digits places =>
      obtain ⟨first, more, same⟩ := List.exists_cons_of_ne_nil places.ne_nil
      have firstDigit : Decimal.isDigit first = true := places.isDigit first (by simp [same])
      have pointEnds : ∀ next ∈ ('.' :: first :: (more ++ following)).head?,
          Decimal.isDigit next = false := by
        intro next member
        cases member
        decide
      have taken := takeWhile_row places.isDigit noDigit
      have left := dropWhile_row places.isDigit noDigit
      rw [same, List.cons_append] at taken left
      rw [Numeral.text, same, List.append_assoc, List.cons_append, List.cons_append, numberPart,
        takeWhile_row digits.isDigit pointEnds, dropWhile_row digits.isDigit pointEnds]
      simp only [firstDigit, if_true, taken, left]

/-- A word is read as a whole where nothing that continues it follows. -/
theorem next_of_word {first : Char} {more following : List Char}
    (start : Name.isStart first = true)
    (parts : ∀ character ∈ more, Name.isPart character = true)
    (ends : ∀ next ∈ following.head?, Name.isPart next = false) :
    next first (more ++ following) =
      .lexeme (wordKind (first :: more) following) (first :: more) (first :: more) following := by
  rw [next, if_neg (Name.not_mark_of_isStart start), Name.isDigit_of_isStart start,
    if_neg Bool.false_ne_true, if_pos start]
  rw [takeWhile_row parts ends, dropWhile_row parts ends]

/-- The symbols that longer symbols begin with. -/
theorem next_of_symbol {first : Char} {written : Operator} {rest : List Char}
    (symbol : first = '=' ∨ first = '<' ∨ first = '>')
    (found : spelling? (first :: rest) = some ([first], written)) :
    next first rest = .lexeme (.operator written) [first] [first] rest := by
  rcases symbol with rfl | rfl | rfl
  all_goals simp [next, Decimal.isDigit, Name.isStart, Name.isLetter, found]

theorem next_of_operator {written : Operator} {first : Char} {following rest : List Char}
    (ends : (Lexeme.operator written).EndsBefore following)
    (whole : written.symbol.toList ++ following = first :: rest) :
    next first rest =
      .lexeme (.operator written) written.symbol.toList written.symbol.toList following := by
  cases written with
  | and =>
      cases whole
      have parts : List.all ['N', 'D'] Name.isPart = true := by decide
      exact next_of_word (by decide) (List.all_eq_true.mp parts) ends
  | or =>
      cases whole
      have parts : List.all ['R'] Name.isPart = true := by decide
      exact next_of_word (by decide) (List.all_eq_true.mp parts) ends
  | not =>
      cases whole
      have parts : List.all ['O', 'T'] Name.isPart = true := by decide
      exact next_of_word (by decide) (List.all_eq_true.mp parts) ends
  | eq =>
      cases whole
      refine next_of_symbol (.inl rfl) ?_
      cases following with
      | nil => rfl
      | cons next rest =>
          have other : next ≠ '=' := by simpa [Lexeme.takes] using ends next rfl
          show spelling? ('=' :: next :: rest) = some (['='], .eq)
          simp [spelling?, spellings, other.symm]
  | lt =>
      cases whole
      refine next_of_symbol (.inr (.inl rfl)) ?_
      cases following with
      | nil => rfl
      | cons next rest =>
          have other : next ≠ '=' ∧ next ≠ '>' := by simpa [Lexeme.takes] using ends next rfl
          show spelling? ('<' :: next :: rest) = some (['<'], .lt)
          simp [spelling?, spellings, other.1.symm, other.2.symm]
  | gt =>
      cases whole
      refine next_of_symbol (.inr (.inr rfl)) ?_
      cases following with
      | nil => rfl
      | cons next rest =>
          have other : next ≠ '=' := by simpa [Lexeme.takes] using ends next rfl
          show spelling? ('>' :: next :: rest) = some (['>'], .gt)
          simp [spelling?, spellings, other.symm]
  | _ =>
      cases whole
      rfl

theorem next_of_literal {written : Literal} {first : Char} {following rest : List Char}
    (ends : (Lexeme.literal written).EndsBefore following)
    (whole : written.text ++ following = first :: rest) :
    next first rest = .lexeme written.kind written.content written.text following := by
  cases written with
  | boolean truth =>
      cases truth with
      | true =>
          cases whole
          have parts : List.all ['r', 'u', 'e'] Name.isPart = true := by decide
          exact next_of_word (by decide) (List.all_eq_true.mp parts) ends
      | false =>
          cases whole
          have parts : List.all ['a', 'l', 's', 'e'] Name.isPart = true := by decide
          exact next_of_word (by decide) (List.all_eq_true.mp parts) ends
  | number numeral =>
      obtain ⟨head, more, same, digit⟩ := numeral.starts
      rw [Literal.text, same, List.cons_append, List.cons.injEq] at whole
      obtain ⟨rfl, rfl⟩ := whole
      have read := numberPart_numeral numeral ends
      rw [same, List.cons_append] at read
      rw [next, if_neg (Decimal.not_mark_of_isDigit digit), if_pos digit, read]
      simp [Literal.kind, Literal.content, Literal.text, same]
  | string mark content =>
      rw [Literal.text, List.append_assoc, List.cons_append, List.cons.injEq] at whole
      obtain ⟨rfl, rfl⟩ := whole
      have isMark : mark.character = '"' ∨ mark.character = '\'' := by cases mark <;> decide
      rw [next, if_pos isMark, List.singleton_append, stringBody_escape]
      rfl

theorem next_of_function {called : Identifier} {first : Char} {following rest : List Char}
    (ends : (Lexeme.function called).EndsBefore following)
    (opened : ∃ after, Text.trimStart following = '(' :: after)
    (whole : called.name.toList ++ following = first :: rest) :
    next first rest =
      .lexeme .function called.name.toList called.name.toList following := by
  obtain ⟨head, more, same, start, parts, notKeyword⟩ := called.starts
  rcases opened with ⟨after, opened⟩
  rw [same, List.cons_append, List.cons.injEq] at whole
  obtain ⟨rfl, rfl⟩ := whole
  have named : wordKind called.name.toList following = .function := by
    simp [wordKind, notKeyword, opened]
  rw [next_of_word start parts ends, ← same, named]

/-- A lexeme is cut off the front of a text where it ends; a name has to be called there. -/
theorem next_of_lexeme {lexeme : Lexeme} {first : Char} {following rest : List Char}
    (ends : lexeme.EndsBefore following)
    (opened : ∀ called, lexeme = .function called →
      ∃ after, Text.trimStart following = '(' :: after)
    (whole : lexeme.text ++ following = first :: rest) :
    next first rest = .lexeme lexeme.kind lexeme.content lexeme.text following := by
  cases lexeme with
  | literal written => exact next_of_literal ends whole
  | function called => exact next_of_function ends (opened called rfl) whole
  | operator written => exact next_of_operator ends whole
  | leftParen | rightParen | comma =>
      cases whole
      rfl

/-! ## Scanning all lexemes -/

theorem scanFrom_of_blank {offset : Nat} {first : Char} {rest : List Char}
    (isBlank : Text.isBlank first = true) :
    scanFrom offset (first :: rest) = scanFrom (offset + first.utf8Size) rest := by
  rw [scanFrom, if_pos isBlank]

theorem scanFrom_of_next
    {offset : Nat} {first : Char} {rest value text after : List Char} {kind : TokenKind}
    {tokens : List Token}
    (visible : Text.isBlank first = false)
    (cut : next first rest = .lexeme kind value text after)
    (scanned : scanFrom (offset + Text.byteLength text) after = .ok tokens) :
    scanFrom offset (first :: rest) =
      .ok (⟨kind, String.ofList value, ⟨offset, offset + Text.byteLength text⟩⟩ :: tokens) := by
  rw [scanFrom, visible, if_neg Bool.false_ne_true]
  split
  · next found =>
    rw [cut] at found
    cases found
    dsimp only
    rw [scanned]
  · next found =>
    rw [cut] at found
    cases found
  · next found =>
    rw [cut] at found
    cases found

end Token

/-- Where an opening parenthesis comes next, blanks apart from it are all that comes before. -/
theorem Laid.trimStart_of_leftParen {rest : List Lexeme} {text : List Char}
    (laid : Laid (.leftParen :: rest) text) :
    ∃ after, Text.trimStart text = '(' :: after := by
  generalize opened : Lexeme.leftParen :: rest = lexemes at laid
  induction laid with
  | nil => cases opened
  | @blank character following lexemes isBlank laid induction =>
      rcases induction opened with ⟨after, trimmed⟩
      refine ⟨after, ?_⟩
      rw [Text.trimStart, List.dropWhile_cons_of_pos isBlank]
      exact trimmed
  | lexeme ends laid induction =>
      cases opened
      exact ⟨_, rfl⟩

/-- A text is scanned to the tokens that its lexemes write. -/
theorem Token.scanFrom_of_laid {lexemes : List Lexeme} {text : List Char}
    (laid : Laid lexemes text) (called : Lexeme.Called lexemes) (offset : Nat) :
    ∃ tokens,
      Token.scanFrom offset text = .ok tokens ∧ WrittenAs tokens lexemes := by
  induction laid generalizing offset with
  | nil => exact ⟨[], by rw [scanFrom], rfl⟩
  | @blank character following lexemes isBlank laid induction =>
      rw [scanFrom_of_blank isBlank]
      exact induction called _
  | @lexeme lexeme following rest ends laid induction =>
      have opened : ∀ name, lexeme = .function name →
          ∃ after, Text.trimStart following = '(' :: after := by
        rintro name rfl
        cases rest with
        | nil => cases called.1
        | cons second rest =>
            cases called.1
            exact laid.trimStart_of_leftParen
      have called' : Lexeme.Called rest := by
        cases lexeme with
        | function name => exact called.2
        | _ => exact called
      obtain ⟨first, more, same, visible⟩ := lexeme.starts
      have cut := Token.next_of_lexeme ends opened (by rw [same, List.cons_append])
      obtain ⟨tokens, scanned, written⟩ :=
        induction called' (offset + Text.byteLength lexeme.text)
      rw [same, List.cons_append]
      refine ⟨_, Token.scanFrom_of_next visible cut scanned, ?_⟩
      refine WrittenAs.cons_iff.mpr ⟨_, _, rfl, rfl, ?_, written⟩
      exact String.toList_ofList

theorem Token.scan_of_laid {lexemes : List Lexeme} {source : String}
    (laid : Laid lexemes source.toList) (called : Lexeme.Called lexemes) :
    ∃ tokens,
      Token.scan source = .ok tokens ∧ WrittenAs tokens lexemes :=
  scanFrom_of_laid laid called 0

end Vigil
