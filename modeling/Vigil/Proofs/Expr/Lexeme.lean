import Vigil.Expression

/-!
# Lexemes

Tokens as they are written.  A lexeme is a token without its place, together with one way of
writing it: a string between either of the two quotes, a number with as many digits as one likes,
an operator by its symbol.

`Laid` says which texts consist of given lexemes.  They follow each other with any blanks between
them, only that no lexeme may be followed by a character that it would take up.
-/

namespace Vigil

/-! ## Literals -/

/-- The quotes that may enclose a string. -/
inductive Mark where
  | single
  | double
deriving DecidableEq, Repr

namespace Mark

def character : Mark → Char
  | single => '\''
  | double => '"'

/-- What is written between two marks: a backslash stands before each mark and each backslash. -/
def escape (mark : Mark) : List Char → List Char
  | [] => []
  | character :: rest =>
    if character = mark.character ∨ character = '\\' then
      '\\' :: character :: mark.escape rest
    else
      character :: mark.escape rest

end Mark

/-- A row of digits. -/
structure Digits where
  characters : List Char
  ne_nil : characters ≠ []
  isDigit : ∀ character ∈ characters, Decimal.isDigit character = true

/-- Digits, perhaps with a point and further digits after them. -/
inductive Numeral where
  | whole (digits : Digits)
  | point (digits places : Digits)

namespace Numeral

def text : Numeral → List Char
  | whole digits => digits.characters
  | point digits places => digits.characters ++ '.' :: places.characters

/-- The decimal that is written. -/
def decimal : Numeral → Decimal
  | whole digits => ⟨Decimal.digitsValue 0 digits.characters, 0⟩
  | point digits places =>
    ⟨Decimal.digitsValue 0 (digits.characters ++ places.characters),
      -(places.characters.length : Int)⟩

/-- The number that is denoted. -/
def number (numeral : Numeral) : Number :=
  numeral.decimal.toNumber false

end Numeral

/-- A literal as it is written. -/
inductive Literal where
  | boolean (truth : Bool)
  | number (numeral : Numeral)
  | string (mark : Mark) (content : String)

namespace Literal

def kind : Literal → TokenKind
  | boolean _ => .boolean
  | number _ => .number
  | string _ _ => .string

/-- The value that a literal stands for. -/
def value : Literal → Value
  | boolean truth => .boolean truth
  | number numeral => .number numeral.number
  | string _ content => .text content

def text : Literal → List Char
  | boolean true => ['t', 'r', 'u', 'e']
  | boolean false => ['f', 'a', 'l', 's', 'e']
  | number numeral => numeral.text
  | string mark content => mark.character :: mark.escape content.toList ++ [mark.character]

/-- What the token of a literal holds: the content of a string, or else the text as written. -/
def content : Literal → List Char
  | string _ content => content.toList
  | written => written.text

end Literal

/-! ## Lexemes -/

/-- A name that a function can have. -/
structure Identifier where
  name : String
  valid : Name.isIdentifier name = true

/-- A token as it is written. -/
inductive Lexeme where
  | literal (written : Literal)
  | function (called : Identifier)
  | operator (written : Operator)
  | leftParen
  | rightParen
  | comma

namespace Lexeme

def kind : Lexeme → TokenKind
  | literal written => written.kind
  | function _ => .function
  | operator written => .operator written
  | leftParen => .leftParen
  | rightParen => .rightParen
  | comma => .comma

def text : Lexeme → List Char
  | literal written => written.text
  | function called => called.name.toList
  | operator written => written.symbol.toList
  | leftParen => ['(']
  | rightParen => [')']
  | comma => [',']

/-- What the token of a lexeme holds. -/
def content : Lexeme → List Char
  | literal written => written.content
  | lexeme => lexeme.text

/-- Whether a lexeme would take up a character that follows it. -/
def takes : Lexeme → Char → Bool
  | literal (.boolean _), next => Name.isPart next
  | literal (.number _), next => Decimal.isDigit next || next == '.'
  | literal (.string _ _), _ => false
  | function _, next => Name.isPart next
  | operator .and, next => Name.isPart next
  | operator .or, next => Name.isPart next
  | operator .not, next => Name.isPart next
  | operator .eq, next => next == '='
  | operator .lt, next => next == '=' || next == '>'
  | operator .gt, next => next == '='
  | operator _, _ => false
  | leftParen, _ => false
  | rightParen, _ => false
  | comma, _ => false

/-- A lexeme ends where some other characters begin. -/
def EndsBefore (lexeme : Lexeme) (following : List Char) : Prop :=
  ∀ next ∈ following.head?, lexeme.takes next = false

/-- What a token keeps of the lexeme that it was written as. -/
def inscription (lexeme : Lexeme) : TokenKind × List Char :=
  (lexeme.kind, lexeme.content)

/-- Every name of a function is followed by an opening parenthesis. -/
def Called : List Lexeme → Prop
  | [] => True
  | function _ :: rest => rest.head? = some leftParen ∧ Called rest
  | _ :: rest => Called rest

end Lexeme

/-- A token without its place. -/
def Token.inscription (token : Token) : TokenKind × List Char :=
  (token.kind, token.value.toList)

/-- Tokens that are written as given lexemes, one for one. -/
def WrittenAs (tokens : List Token) (lexemes : List Lexeme) : Prop :=
  tokens.map Token.inscription = lexemes.map Lexeme.inscription

/-- Lexemes one after the other, with any blanks before, between and after them. -/
inductive Laid : List Lexeme → List Char → Prop where
  | nil : Laid [] []
  | blank {character : Char} {following : List Char} {lexemes : List Lexeme}
      (isBlank : Text.isBlank character = true)
      (laid : Laid lexemes following) :
      Laid lexemes (character :: following)
  | lexeme {lexeme : Lexeme} {following : List Char} {rest : List Lexeme}
      (ends : lexeme.EndsBefore following)
      (laid : Laid rest following) :
      Laid (lexeme :: rest) (lexeme.text ++ following)

namespace WrittenAs

variable {tokens : List Token} {lexeme : Lexeme} {first second rest : List Lexeme}

theorem nil_iff : WrittenAs tokens [] ↔ tokens = [] := by
  simp [WrittenAs]

theorem cons_iff :
    WrittenAs tokens (lexeme :: rest) ↔
      ∃ token more,
        tokens = token :: more ∧ token.kind = lexeme.kind ∧
          token.value.toList = lexeme.content ∧ WrittenAs more rest := by
  simp [WrittenAs, List.map_eq_cons_iff, Token.inscription, Lexeme.inscription, and_assoc]

theorem singleton_iff :
    WrittenAs tokens [lexeme] ↔
      ∃ token,
        tokens = [token] ∧ token.kind = lexeme.kind ∧ token.value.toList = lexeme.content := by
  simp [WrittenAs, List.map_eq_singleton_iff, Token.inscription, Lexeme.inscription]

theorem append_iff :
    WrittenAs tokens (first ++ second) ↔
      ∃ before after,
        tokens = before ++ after ∧ WrittenAs before first ∧ WrittenAs after second := by
  simp [WrittenAs, List.map_eq_append_iff]

end WrittenAs

/-! ## Laying lexemes out -/

namespace Lexeme

/-- Lexemes with a blank between two of them only where the first would take up the second. -/
def tight : List Lexeme → List Char
  | [] => []
  | lexeme :: rest =>
    if (tight rest).head?.any lexeme.takes then
      lexeme.text ++ ' ' :: tight rest
    else
      lexeme.text ++ tight rest

theorem takes_space (lexeme : Lexeme) : lexeme.takes ' ' = false := by
  cases lexeme with
  | literal written => cases written <;> rfl
  | operator written => cases written <;> rfl
  | _ => rfl

/-- There is a text for any lexemes. -/
theorem laid_tight (lexemes : List Lexeme) : Laid lexemes (tight lexemes) := by
  induction lexemes with
  | nil => exact .nil
  | cons lexeme rest induction =>
      rw [tight]
      split
      · refine .lexeme ?_ (.blank (by decide) induction)
        intro next member
        cases member
        exact lexeme.takes_space
      · next free =>
        refine .lexeme ?_ induction
        intro next member
        rw [Option.mem_def] at member
        simpa [member] using free

theorem called_append {first second : List Lexeme} (called : Called first)
    (called' : Called second) : Called (first ++ second) := by
  induction first with
  | nil => exact called'
  | cons lexeme rest induction =>
      cases lexeme with
      | function name =>
          rcases called with ⟨opened, called⟩
          refine ⟨?_, induction called⟩
          simp [List.head?_append, opened]
      | _ => exact induction called

end Lexeme

/-! ## Characters -/

section Characters

variable {character : Char}

theorem Decimal.isDigit_iff :
    Decimal.isDigit character = true ↔ 48 ≤ character.toNat ∧ character.toNat ≤ 57 := by
  simp [Decimal.isDigit, Char.le_def, UInt32.le_iff_toNat_le]

theorem Name.isStart_iff :
    Name.isStart character = true ↔
      (97 ≤ character.toNat ∧ character.toNat ≤ 122) ∨
        (65 ≤ character.toNat ∧ character.toNat ≤ 90) ∨ character = '_' := by
  simp [Name.isStart, Name.isLetter, Char.le_def, UInt32.le_iff_toNat_le, or_assoc]

theorem Decimal.isBlank_of_isDigit (digit : Decimal.isDigit character = true) :
    Text.isBlank character = false := by
  rw [Decimal.isDigit_iff] at digit
  simp [Text.isBlank]
  omega

theorem Decimal.not_mark_of_isDigit (digit : Decimal.isDigit character = true) :
    ¬(character = '"' ∨ character = '\'') := by
  rintro (rfl | rfl) <;> revert digit <;> decide

theorem Name.isBlank_of_isStart (start : Name.isStart character = true) :
    Text.isBlank character = false := by
  rw [Name.isStart_iff] at start
  rcases start with small | large | rfl
  · simp [Text.isBlank]
    omega
  · simp [Text.isBlank]
    omega
  · decide

theorem Name.not_mark_of_isStart (start : Name.isStart character = true) :
    ¬(character = '"' ∨ character = '\'') := by
  rintro (rfl | rfl) <;> revert start <;> decide

theorem Name.isDigit_of_isStart (start : Name.isStart character = true) :
    Decimal.isDigit character = false := by
  rw [Bool.eq_false_iff]
  intro digit
  rw [Decimal.isDigit_iff] at digit
  rw [Name.isStart_iff] at start
  rcases start with small | large | rfl
  · omega
  · omega
  · revert digit
    decide

end Characters

/-- A numeral starts with a digit. -/
theorem Numeral.starts (numeral : Numeral) :
    ∃ first more, numeral.text = first :: more ∧ Decimal.isDigit first = true := by
  have first (digits : Digits) : ∃ first more,
      digits.characters = first :: more ∧ Decimal.isDigit first = true := by
    obtain ⟨first, more, same⟩ := List.exists_cons_of_ne_nil digits.ne_nil
    exact ⟨first, more, same, digits.isDigit first (by simp [same])⟩
  cases numeral with
  | whole digits => exact first digits
  | point digits places =>
      rcases first digits with ⟨head, more, same, digit⟩
      exact ⟨head, more ++ '.' :: places.characters, by simp [text, same], digit⟩

theorem Identifier.starts (identifier : Identifier) :
    ∃ first more,
      identifier.name.toList = first :: more ∧ Name.isStart first = true ∧
        (∀ character ∈ more, Name.isPart character = true) ∧
        Keyword.ofWord? identifier.name.toList = none := by
  have valid := identifier.valid
  rw [Name.isIdentifier] at valid
  split at valid
  · cases valid
  · next first more same =>
    simp only [Bool.and_eq_true, Bool.not_eq_true', List.all_eq_true] at valid
    obtain ⟨⟨start, parts⟩, plain⟩ := valid
    refine ⟨first, more, same, start, parts, ?_⟩
    simpa [Name.isKeyword] using plain

/-- A lexeme starts with a character that is not blank. -/
theorem Lexeme.starts (lexeme : Lexeme) :
    ∃ first more, lexeme.text = first :: more ∧ Text.isBlank first = false := by
  cases lexeme with
  | literal written =>
      cases written with
      | boolean truth => cases truth <;> exact ⟨_, _, rfl, by decide⟩
      | number numeral =>
          rcases numeral.starts with ⟨first, more, same, digit⟩
          exact ⟨first, more, same, Decimal.isBlank_of_isDigit digit⟩
      | string mark content => exact ⟨_, _, rfl, by cases mark <;> decide⟩
  | function called =>
      rcases called.starts with ⟨first, more, same, start, -⟩
      exact ⟨first, more, same, Name.isBlank_of_isStart start⟩
  | operator written => cases written <;> exact ⟨_, _, rfl, by decide⟩
  | leftParen | rightParen | comma => exact ⟨_, _, rfl, by decide⟩

end Vigil
