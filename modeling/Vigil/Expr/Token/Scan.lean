import Vigil.Expr.Name
import Vigil.Expr.SyntaxError
import Vigil.Expr.Token
import Vigil.Number.Decimal
import Vigil.Text.Blank

/-!
# Scanning tokens

A source is cut into tokens from left to right. Blank characters separate tokens and are passed
over; every other character starts a token or is a fault. `Token.next` cuts one token off the
front, the longest that starts there, and `Token.next_lexeme` says that it takes at least one
character and leaves the others as they are. A name is a function where the first character
after it that is not blank opens a parenthesis.
-/

namespace Vigil.Token

/-! ## Parts of tokens -/

/--
The inside of a string literal after its opening `mark`: the text it stands for, the characters
up to and including the closing mark, and those after it. A backslash stands for the character
that follows it.
-/
def stringBody (mark : Char) : List Char → Option (List Char × List Char × List Char)
  | [] => none
  | '\\' :: [] => none
  | '\\' :: escaped :: rest => do
    let (value, body, after) ← stringBody mark rest
    some (escaped :: value, '\\' :: escaped :: body, after)
  | character :: rest =>
    if character = mark then
      some ([], [character], rest)
    else do
      let (value, body, after) ← stringBody mark rest
      some (character :: value, character :: body, after)

/--
A number at the front of some characters, and what is left: digits, and a point with digits
after it. A point without a digit after it is left.
-/
def numberPart (characters : List Char) : List Char × List Char :=
  let whole := characters.takeWhile Decimal.isDigit
  match characters.dropWhile Decimal.isDigit with
  | '.' :: digit :: rest =>
    if Decimal.isDigit digit then
      (whole ++ '.' :: (digit :: rest).takeWhile Decimal.isDigit,
        (digit :: rest).dropWhile Decimal.isDigit)
    else
      (whole, '.' :: digit :: rest)
  | rest => (whole, rest)

/-- The kind of a word in front of some characters. -/
def wordKind (word rest : List Char) : TokenKind :=
  match Keyword.ofWord? word with
  | some (.boolean _) => .boolean
  | some (.operator written) => .operator written
  | none =>
    match Text.trimStart rest with
    | '(' :: _ => .function
    | _ => .identifier

/-- The spellings of the operators by symbols, longer ones before their beginnings. -/
def spellings : List (List Char × Operator) :=
  [(['&', '&'], .and), (['|', '|'], .or), (['=', '='], .eq), (['!', '='], .ne),
    (['<', '>'], .ne), (['<', '='], .le), (['>', '='], .ge), (['!'], .not), (['='], .eq),
    (['<'], .lt), (['>'], .gt), (['+'], .add), (['-'], .sub), (['*'], .mul), (['/'], .div),
    (['%'], .rem)]

/-- The first spelling that some characters begin with. -/
def spelling? (characters : List Char) : Option (List Char × Operator) :=
  spellings.find? fun entry => entry.1.isPrefixOf characters

/-! ## One token -/

/-- What stands at the front of some characters. -/
inductive Next where
  | lexeme (kind : TokenKind) (value text rest : List Char)
  | unterminated
  | unexpected (character : Char)
deriving DecidableEq

/-- The token at the front of `first :: rest`, where `first` is not blank. -/
def next (first : Char) (rest : List Char) : Next :=
  if first = '"' ∨ first = '\'' then
    match stringBody first rest with
    | some (value, body, after) => .lexeme .string value (first :: body) after
    | none => .unterminated
  else if Decimal.isDigit first then
    let (text, after) := numberPart (first :: rest)
    .lexeme .number text text after
  else if Name.isStart first then
    let word := first :: rest.takeWhile Name.isPart
    let after := rest.dropWhile Name.isPart
    .lexeme (wordKind word after) word word after
  else if first = '(' then
    .lexeme .leftParen [first] [first] rest
  else if first = ')' then
    .lexeme .rightParen [first] [first] rest
  else if first = ',' then
    .lexeme .comma [first] [first] rest
  else
    match spelling? (first :: rest) with
    | some (text, written) =>
      .lexeme (.operator written) text text ((first :: rest).drop text.length)
    | none => .unexpected first

theorem stringBody_append {mark : Char} {characters value body after : List Char}
    (found : stringBody mark characters = some (value, body, after)) :
    characters = body ++ after := by
  fun_induction stringBody mark characters generalizing value body after with
  | case1 => simp at found
  | case2 => simp at found
  | case3 escaped rest step =>
    obtain ⟨⟨_, _, _⟩, read, rebuilt⟩ := Option.bind_eq_some_iff.mp found
    simp only [Option.some.injEq, Prod.mk.injEq] at rebuilt
    obtain ⟨rfl, rfl, rfl⟩ := rebuilt
    simpa using step read
  | case4 rest =>
    simp only [Option.some.injEq, Prod.mk.injEq] at found
    obtain ⟨rfl, rfl, rfl⟩ := found
    rfl
  | case5 character rest _ _ _ step =>
    obtain ⟨⟨_, _, _⟩, read, rebuilt⟩ := Option.bind_eq_some_iff.mp found
    simp only [Option.some.injEq, Prod.mk.injEq] at rebuilt
    obtain ⟨rfl, rfl, rfl⟩ := rebuilt
    simpa using step read

theorem numberPart_append (characters : List Char) :
    (numberPart characters).1 ++ (numberPart characters).2 = characters := by
  unfold numberPart
  dsimp only
  have parts := List.takeWhile_append_dropWhile (p := Decimal.isDigit) (l := characters)
  split
  · next digit rest remaining =>
    rw [remaining] at parts
    split
    · rw [List.append_assoc, List.cons_append, List.takeWhile_append_dropWhile]
      exact parts
    · exact parts
  · exact parts

theorem numberPart_ne_nil {first : Char} {rest : List Char}
    (digit : Decimal.isDigit first = true) : (numberPart (first :: rest)).1 ≠ [] := by
  unfold numberPart
  dsimp only
  split
  · split <;> simp [digit]
  · simp [digit]

theorem spelling?_append {characters text : List Char} {written : Operator}
    (found : spelling? characters = some (text, written)) :
    characters = text ++ characters.drop text.length ∧ text ≠ [] := by
  have starts := List.find?_some found
  have listed := List.mem_of_find?_eq_some found
  obtain ⟨after, whole⟩ := List.isPrefixOf_iff_prefix.mp starts
  refine ⟨?_, ?_⟩
  · rw [← whole, List.drop_left]
  · rintro rfl
    revert listed
    cases written <;> decide

/-- A token takes at least one character and leaves those after it. -/
theorem next_lexeme {first : Char} {rest value text after : List Char} {kind : TokenKind}
    (found : next first rest = .lexeme kind value text after) :
    first :: rest = text ++ after ∧ text ≠ [] := by
  unfold next at found
  dsimp only at found
  split at found
  · split at found
    · next read =>
      cases found
      exact ⟨by rw [stringBody_append read, List.cons_append], List.cons_ne_nil _ _⟩
    · cases found
  · split at found
    · next digit =>
      cases found
      exact ⟨(numberPart_append _).symm, numberPart_ne_nil digit⟩
    · split at found
      · cases found
        exact ⟨by simp, List.cons_ne_nil _ _⟩
      · split at found
        · cases found
          exact ⟨rfl, List.cons_ne_nil _ _⟩
        · split at found
          · cases found
            exact ⟨rfl, List.cons_ne_nil _ _⟩
          · split at found
            · cases found
              exact ⟨rfl, List.cons_ne_nil _ _⟩
            · split at found
              · next read =>
                cases found
                exact spelling?_append read
              · cases found

theorem length_of_next_lexeme
    {first : Char} {rest value text after : List Char} {kind : TokenKind}
    (found : next first rest = .lexeme kind value text after) :
    after.length < (first :: rest).length := by
  obtain ⟨whole, taken⟩ := next_lexeme found
  rw [whole, List.length_append]
  have := List.length_pos_iff.mpr taken
  omega

/-! ## All tokens -/

/-- The tokens of some characters that stand at byte `offset` of a source. -/
def scanFrom (offset : Nat) : List Char → Except SyntaxFailure (List Token)
  | [] => .ok []
  | first :: rest =>
    if Text.isBlank first then
      scanFrom (offset + first.utf8Size) rest
    else
      match found : next first rest with
      | .lexeme kind value text after =>
        let stop := offset + Text.byteLength text
        have := length_of_next_lexeme found
        match scanFrom stop after with
        | .ok tokens => .ok (⟨kind, String.ofList value, ⟨offset, stop⟩⟩ :: tokens)
        | .error failure => .error failure
      | .unterminated => .error ⟨offset, .unterminatedString⟩
      | .unexpected character => .error ⟨offset, .unexpectedCharacter character⟩
termination_by characters => characters.length
decreasing_by all_goals simp_all

/-- The tokens of a source. -/
def scan (source : String) : Except SyntaxFailure (List Token) :=
  scanFrom 0 source.toList

/-- The tokens of a source, or the report of its first fault. -/
def tokenize (source : String) : Except SyntaxError (List Token) :=
  (scan source).mapError (SyntaxError.ofFailure source)

/-- The distinct names of the functions that a source mentions. -/
def namesIn (source : String) : Except SyntaxError (List String) :=
  (tokenize source).map functionNames

end Vigil.Token
