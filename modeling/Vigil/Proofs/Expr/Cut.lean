import Vigil.Proofs.Expr.Longest

/-!
# Cutting a text into tokens

`Token.Cut` is what the scanner does, without the scanner: a text is cut into tokens with blanks
between them, where other characters follow the text.  A whole source is cut with nothing after
it, which is `Token.scanFrom_eq_ok_iff`.

Texts that are cut can be put together (`Token.Cut.append`) and taken apart at every place that
is not inside a token (`Token.Cut.split`), and what is cut where one text follows is cut in the
same way where another does, if that begins with a blank (`Token.Cut.before`).
-/

namespace Vigil.Token

/--
`Cut following offset characters tokens` says that the characters, which stand at byte `offset` of
a source with others after them, consist of the tokens and blanks.
-/
inductive Cut (following : List Char) : Nat → List Char → List Token → Prop where
  | nil {offset : Nat} : Cut following offset [] []
  | blank {offset : Nat} {character : Char} {rest : List Char} {tokens : List Token}
      (isBlank : Text.isBlank character = true)
      (cut : Cut following (offset + character.utf8Size) rest tokens) :
      Cut following offset (character :: rest) tokens
  | token {offset : Nat} {kind : TokenKind} {value text rest : List Char} {tokens : List Token}
      (lexes : Lexes kind value text (rest ++ following))
      (cut : Cut following (offset + Text.byteLength text) rest tokens) :
      Cut following offset (text ++ rest)
        (⟨kind, String.ofList value, ⟨offset, offset + Text.byteLength text⟩⟩ :: tokens)

/-! ## The scanner cuts -/

theorem cut_of_scanFrom {offset : Nat} {characters : List Char} {tokens : List Token}
    (scanned : scanFrom offset characters = .ok tokens) : Cut [] offset characters tokens := by
  fun_induction scanFrom offset characters generalizing tokens with
  | case1 =>
      cases scanned
      exact .nil
  | case2 offset first rest isBlank step => exact .blank isBlank (step scanned)
  | case3 offset first rest visible kind value text after found stop _ others read =>
      rename_i step
      cases scanned
      rw [(next_lexeme found).1]
      apply Cut.token
      · rw [List.append_nil]
        exact lexes_of_next found
      · exact step read
  | case4 | case5 | case6 => cases scanned

theorem scanFrom_of_cut {offset : Nat} {characters : List Char} {tokens : List Token}
    (cut : Cut [] offset characters tokens) : scanFrom offset characters = .ok tokens := by
  induction cut with
  | nil => rw [scanFrom]
  | blank isBlank cut induction =>
      rw [scanFrom_of_blank isBlank]
      exact induction
  | token lexes cut induction =>
      rw [List.append_nil] at lexes
      rcases lexes.starts with ⟨first, more, rfl, visible, -⟩
      exact scanFrom_of_next visible lexes.next induction

/-- What the scanner accepts are the texts that can be cut. -/
theorem scanFrom_eq_ok_iff {offset : Nat} {characters : List Char} {tokens : List Token} :
    scanFrom offset characters = .ok tokens ↔ Cut [] offset characters tokens :=
  ⟨cut_of_scanFrom, scanFrom_of_cut⟩

/-- Where the scanner fails, the text up to the fault is cut. -/
theorem cut_of_scanFrom_error {offset : Nat} {characters : List Char} {failure : SyntaxFailure}
    (scanned : scanFrom offset characters = .error failure) :
    ∃ before after tokens,
      characters = before ++ after ∧ failure.position = offset + Text.byteLength before ∧
        Cut after offset before tokens := by
  fun_induction scanFrom offset characters with
  | case1 => cases scanned
  | case2 offset first rest isBlank step =>
      obtain ⟨before, after, tokens, rfl, position, cut⟩ := step scanned
      refine ⟨first :: before, after, tokens, rfl, ?_, .blank isBlank cut⟩
      rw [position, Text.byteLength, Nat.add_assoc]
  | case3 => cases scanned
  | case4 offset first rest visible kind value text after found stop _ failure' read =>
      rename_i step
      cases scanned
      obtain ⟨before, after', tokens, rfl, position, cut⟩ := step read
      refine ⟨text ++ before, after', _, ?_, ?_, .token (lexes_of_next found) cut⟩
      · rw [(next_lexeme found).1, List.append_assoc]
      · rw [position, Text.byteLength_append, Nat.add_assoc]
  | case5 | case6 =>
      cases scanned
      exact ⟨[], _, [], rfl, rfl, .nil⟩

/-- A token that stands so many bytes further on. -/
def shift (count : Nat) (token : Token) : Token :=
  { token with span := ⟨token.span.start + count, token.span.stop + count⟩ }

/-- A name is that of a function exactly if an opening parenthesis comes after it. -/
def Called : List Token → Prop
  | [] => True
  | token :: rest =>
    (token.kind.isName = true →
      (token.kind = .function ↔ ∃ left ∈ rest.head?, left.kind = .leftParen)) ∧ Called rest

namespace Cut

variable {following first second characters other : List Char} {offset : Nat}
variable {tokens earlier later : List Token}

/-! ## Places of tokens -/

theorem bounds (cut : Cut following offset characters tokens) :
    ∀ token ∈ tokens,
      offset ≤ token.span.start ∧ token.span.start < token.span.stop ∧
        token.span.stop ≤ offset + Text.byteLength characters := by
  induction cut with
  | nil => simp
  | blank isBlank cut induction =>
      intro token member
      rw [Text.byteLength]
      have := induction token member
      omega
  | token lexes cut induction =>
      rcases lexes.starts with ⟨first, more, rfl, -⟩
      have inhabited := Text.byteLength_pos (List.cons_ne_nil first more)
      intro token member
      rw [Text.byteLength_append]
      cases member with
      | head => simp only; omega
      | tail _ member =>
          have := induction token member
          omega

/-- The tokens of a text do not overlap, and they are in order. -/
theorem ordered (cut : Cut following offset characters tokens) :
    tokens.Pairwise fun first second => first.span.stop ≤ second.span.start := by
  induction cut with
  | nil => exact .nil
  | blank isBlank cut induction => exact induction
  | token lexes cut induction =>
      exact List.pairwise_cons.mpr ⟨fun second member => (cut.bounds second member).1, induction⟩

/-! ## Putting together and taking apart -/

theorem append (cut : Cut (second ++ following) offset first earlier)
    (cut' : Cut following (offset + Text.byteLength first) second later) :
    Cut following offset (first ++ second) (earlier ++ later) := by
  induction cut with
  | nil => exact cut'
  | blank isBlank cut induction =>
      rw [Text.byteLength, ← Nat.add_assoc] at cut'
      exact .blank isBlank (induction cut')
  | token lexes cut induction =>
      rw [Text.byteLength_append, ← Nat.add_assoc] at cut'
      rw [← List.append_assoc] at lexes
      rw [List.append_assoc]
      exact .token lexes (induction cut')

/-- A text is taken apart where no token goes on. -/
theorem split (cut : Cut following offset (first ++ second) tokens)
    (between : ∀ token ∈ tokens,
      token.span.stop ≤ offset + Text.byteLength first ∨
        offset + Text.byteLength first ≤ token.span.start) :
    ∃ before after,
      tokens = before ++ after ∧ Cut (second ++ following) offset first before ∧
        Cut following (offset + Text.byteLength first) second after := by
  generalize whole : first ++ second = characters at cut
  induction cut generalizing first with
  | nil =>
      obtain ⟨rfl, rfl⟩ := List.append_eq_nil_iff.mp whole
      exact ⟨[], [], rfl, .nil, .nil⟩
  | @blank offset character rest tokens isBlank cut induction =>
      cases first with
      | nil =>
          subst whole
          exact ⟨[], tokens, rfl, .nil, .blank isBlank cut⟩
      | cons head first =>
          cases whole
          rw [Text.byteLength, ← Nat.add_assoc] at between ⊢
          obtain ⟨before, after, same, left, right⟩ := induction between rfl
          exact ⟨before, after, same, .blank isBlank left, right⟩
  | @token offset kind value text rest tokens lexes cut induction =>
      cases first with
      | nil =>
          subst whole
          exact ⟨[], _, rfl, .nil, .token lexes cut⟩
      | cons head first =>
          have place : offset + Text.byteLength text ≤ offset + Text.byteLength (head :: first) ∨
              offset + Text.byteLength (head :: first) ≤ offset :=
            between _ List.mem_cons_self
          have between' := fun token member => between token (List.mem_cons_of_mem _ member)
          -- The text is cut behind the first token, since it cannot be cut inside.
          obtain ⟨left, same, rfl⟩ :
              ∃ left, head :: first = text ++ left ∧ rest = left ++ second := by
            rcases List.append_eq_append_iff.mp whole with ⟨inside, same, rfl⟩ | behind
            · cases inside with
              | nil => exact ⟨[], by simpa using same.symm, rfl⟩
              | cons next inside =>
                  have := Text.byteLength_pos (List.cons_ne_nil head first)
                  have := Text.byteLength_pos (List.cons_ne_nil next inside)
                  rw [same, Text.byteLength_append] at place
                  omega
            · exact behind
          rw [same, Text.byteLength_append, ← Nat.add_assoc] at between' ⊢
          obtain ⟨before, after, rfl, cut, cut'⟩ := induction between' rfl
          rw [List.append_assoc] at lexes
          exact ⟨_ :: before, after, rfl, .token lexes cut, cut'⟩

/-- A text is taken apart where one of its tokens begins, or else at its end. -/
theorem split_tokens (cut : Cut following offset characters (earlier ++ later)) :
    ∃ first second,
      characters = first ++ second ∧ Cut (second ++ following) offset first earlier ∧
        Cut following (offset + Text.byteLength first) second later ∧
          Tree.place (offset + Text.byteLength characters) later =
            offset + Text.byteLength first := by
  generalize whole : earlier ++ later = tokens at cut
  induction cut generalizing earlier with
  | nil =>
      obtain ⟨rfl, rfl⟩ := List.append_eq_nil_iff.mp whole
      exact ⟨[], [], rfl, .nil, .nil, rfl⟩
  | @blank offset character rest tokens isBlank cut induction =>
      obtain ⟨first, second, rfl, left, right, place⟩ := induction whole
      rw [Nat.add_assoc, Nat.add_assoc, ← Text.byteLength, ← Text.byteLength] at place
      rw [Nat.add_assoc, ← Text.byteLength] at right
      exact ⟨character :: first, second, rfl, .blank isBlank left, right, place⟩
  | @token offset kind value text rest tokens lexes cut induction =>
      cases earlier with
      | nil =>
          subst whole
          exact ⟨[], _, rfl, .nil, .token lexes cut, rfl⟩
      | cons head earlier =>
          cases whole
          obtain ⟨first, second, rfl, left, right, place⟩ := induction rfl
          rw [Nat.add_assoc, Nat.add_assoc, ← Text.byteLength_append, ← Text.byteLength_append]
            at place
          rw [Nat.add_assoc, ← Text.byteLength_append] at right
          rw [List.append_assoc] at lexes
          exact ⟨text ++ first, second, by simp, .token lexes left, right, by simpa using place⟩

/-- A text that begins with its first token is taken apart behind it. -/
theorem uncons {token : Token} (cut : Cut following offset characters (token :: tokens))
    (begins : token.span.start = offset) :
    ∃ text rest,
      characters = text ++ rest ∧ token.span.stop = offset + Text.byteLength text ∧
        Cut (rest ++ following) offset text [token] ∧
          Cut following (offset + Text.byteLength text) rest tokens := by
  generalize whole : token :: tokens = all at cut
  cases cut with
  | nil => cases whole
  | @blank _ character rest _ isBlank cut =>
      subst whole
      have behind := (cut.bounds token List.mem_cons_self).1
      have positive := character.utf8Size_pos
      omega
  | @token _ kind value text rest _ lexes cut =>
      cases whole
      have alone : Cut (rest ++ following) offset (text ++ []) _ := .token lexes .nil
      rw [List.append_nil] at alone
      exact ⟨text, rest, rfl, rfl, alone, cut⟩

/-- A text is taken apart behind each of its tokens. -/
theorem split_behind {token : Token}
    (cut : Cut following offset characters (earlier ++ token :: later)) :
    ∃ first second,
      characters = first ++ second ∧ token.span.stop = offset + Text.byteLength first ∧
        Cut (second ++ following) offset first (earlier ++ [token]) ∧
          Cut following (offset + Text.byteLength first) second later := by
  obtain ⟨before, after, rfl, left, right, place⟩ := cut.split_tokens
  obtain ⟨text, rest, rfl, stop, middle, right⟩ := right.uncons place
  rw [List.append_assoc] at left
  refine ⟨before ++ text, rest, by rw [List.append_assoc], ?_, left.append middle, ?_⟩
  · rw [stop, Text.byteLength_append, Nat.add_assoc]
  · rw [Text.byteLength_append, ← Nat.add_assoc]
    exact right

/-- Tokens stand further on where the text does. -/
theorem shift (cut : Cut following offset characters tokens) (count : Nat) :
    Cut following (offset + count) characters (tokens.map (Token.shift count)) := by
  induction cut with
  | nil => exact .nil
  | blank isBlank cut induction =>
      rw [Nat.add_right_comm] at induction
      exact .blank isBlank induction
  | token lexes cut induction =>
      rw [Nat.add_right_comm] at induction
      rw [List.map_cons, Token.shift]
      dsimp only
      rw [Nat.add_right_comm]
      exact .token lexes induction

/-- A text that stands further on has its tokens there. -/
theorem unshift {count : Nat} (cut : Cut following (offset + count) characters tokens) :
    ∃ tokens', tokens'.map (Token.shift count) = tokens ∧
      Cut following offset characters tokens' := by
  generalize place : offset + count = offset' at cut
  induction cut generalizing offset with
  | nil => exact ⟨[], rfl, .nil⟩
  | @blank offset' character rest tokens isBlank cut induction =>
      subst place
      obtain ⟨tokens', same, cut'⟩ := induction (Nat.add_right_comm offset character.utf8Size count)
      exact ⟨tokens', same, .blank isBlank cut'⟩
  | @token offset' kind value text rest tokens lexes cut induction =>
      subst place
      obtain ⟨tokens', rfl, cut'⟩ :=
        induction (Nat.add_right_comm offset (Text.byteLength text) count)
      refine ⟨_, ?_, .token lexes cut'⟩
      rw [List.map_cons, Token.shift, Nat.add_right_comm offset]

/-! ## What follows a text -/

/-- Whether a parenthesis opens next is told by the next token. -/
theorem opens_append (cut : Cut following offset characters tokens) (other : List Char) :
    Text.opens (characters ++ other) =
      tokens.head?.elim (Text.opens other) (·.kind == .leftParen) := by
  induction cut with
  | nil => rfl
  | blank isBlank cut induction =>
      rw [List.cons_append, Text.opens_cons_of_blank isBlank]
      exact induction
  | token lexes cut induction =>
      rw [List.append_assoc]
      exact lexes.opens _

theorem head_ne_point (cut : Cut following offset characters tokens) :
    ∀ next ∈ characters.head?, next ≠ '.' := by
  cases cut with
  | nil => simp
  | blank isBlank cut =>
      intro next member
      cases member
      exact (not_part_of_blank isBlank).2.2
  | token lexes cut =>
      rcases lexes.starts with ⟨first, more, rfl, -, noPoint⟩
      intro next member
      cases member
      exact noPoint

/-- A function name is followed by an opening parenthesis, and no other name is. -/
theorem called (cut : Cut [] offset characters tokens) : Called tokens := by
  induction cut with
  | nil => trivial
  | blank isBlank cut induction => exact induction
  | @token offset kind value text rest tokens lexes cut induction =>
      refine ⟨?_, induction⟩
      intro isName
      have known := lexes.kind_before
      rw [TokenKind.before, if_pos isName, cut.opens_append] at known
      rw [← known]
      cases tokens with
      | nil => simp
      | cons next tokens => by_cases opened : next.kind = .leftParen <;> simp [opened]

theorem last_before (cut : Cut following offset characters tokens) :
    ∀ token ∈ tokens.getLast?, token.kind.before following = token.kind := by
  induction cut with
  | nil => simp
  | blank isBlank cut induction => exact induction
  | @token offset kind value text rest tokens lexes cut induction =>
      intro token member
      cases tokens with
      | nil =>
          cases member
          have same := cut.opens_append following
          rw [← TokenKind.before_congr same]
          exact lexes.kind_before
      | cons second tokens =>
          rw [List.getLast?_cons_cons] at member
          exact induction token member

/--
A text is cut wherever a blank or nothing follows it.  The tokens are the same, unless the last is
a name that becomes a function or ceases to be one.
-/
theorem before (cut : Cut following offset characters tokens)
    (ends : ∀ next ∈ other.head?, Text.isBlank next = true) :
    ∃ tokens',
      Cut other offset characters tokens' ∧
        ((∀ token ∈ tokens.getLast?, token.kind.before other = token.kind) →
          tokens' = tokens) := by
  induction cut with
  | nil => exact ⟨[], .nil, fun _ => rfl⟩
  | blank isBlank cut induction =>
      rcases induction with ⟨tokens', cut', same⟩
      exact ⟨tokens', .blank isBlank cut', same⟩
  | @token offset kind value text rest tokens lexes cut induction =>
      rcases induction with ⟨tokens', cut', same⟩
      have ends' : ∀ next ∈ (rest ++ other).head?,
          Text.isBlank next = true ∨ (next ∈ (rest ++ following).head? ∧ next ≠ '.') := by
        intro next member
        cases rest with
        | nil => exact .inl (ends next member)
        | cons first rest => exact .inr ⟨member, cut.head_ne_point next member⟩
      refine ⟨_, .token (lexes.before ends') cut', ?_⟩
      intro unchanged
      cases tokens with
      | nil =>
          have same' := cut.opens_append other
          have kept : kind.before other = kind := unchanged _ rfl
          rw [same (by simp), TokenKind.before_congr same', kept]
      | cons second tokens =>
          rw [List.getLast?_cons_cons] at unchanged
          have same' : Text.opens (rest ++ other) = Text.opens (rest ++ following) := by
            rw [cut.opens_append, cut.opens_append]
            rfl
          rw [same unchanged, TokenKind.before_congr same', lexes.kind_before]

/-- A text is cut alike where blanks are put in front of what follows it. -/
theorem before_alike (cut : Cut following offset characters tokens)
    (ends : ∀ next ∈ other.head?, Text.isBlank next = true)
    (same : Text.opens other = Text.opens following) : Cut other offset characters tokens := by
  rcases cut.before ends with ⟨tokens', cut', unchanged⟩
  rw [← unchanged]
  · exact cut'
  · intro token member
    rw [TokenKind.before_congr same]
    exact cut.last_before token member

/-- Blanks are cut into no tokens. -/
theorem of_blanks {blanks : List Char}
    (isBlank : ∀ character ∈ blanks, Text.isBlank character = true) :
    Cut following offset blanks [] := by
  induction blanks generalizing offset with
  | nil => exact .nil
  | cons character rest induction =>
      rw [List.forall_mem_cons] at isBlank
      exact .blank isBlank.1 (induction isBlank.2)

end Cut

/-! ## Sources -/

theorem tokenize_eq_ok_iff {source : String} {tokens : List Token} :
    tokenize source = .ok tokens ↔ Cut [] 0 source.toList tokens := by
  rw [← scanFrom_eq_ok_iff, tokenize, scan]
  cases scanFrom 0 source.toList with
  | error failure =>
      constructor
      · intro impossible
        cases impossible
      · intro impossible
        cases impossible
  | ok others =>
      constructor
      · intro same
        cases same
        rfl
      · intro same
        cases same
        rfl

/-- A source that is no row of tokens is one up to the place of the fault. -/
theorem cut_of_tokenize_error {source : String} {error : SyntaxError}
    (failed : tokenize source = .error error) :
    ∃ (before after : String) (tokens : List Token),
      source = before ++ after ∧ before.utf8ByteSize = error.position ∧
        Cut after.toList 0 before.toList tokens := by
  rw [tokenize, scan] at failed
  cases scanned : scanFrom 0 source.toList with
  | ok tokens =>
      rw [scanned] at failed
      cases failed
  | error failure =>
      rw [scanned] at failed
      cases failed
      obtain ⟨before, after, tokens, whole, position, cut⟩ := cut_of_scanFrom_error scanned
      refine ⟨String.ofList before, String.ofList after, tokens, ?_, ?_, by simpa using cut⟩
      · rw [← String.ofList_append, ← whole, String.ofList_toList]
      · rw [Nat.zero_add] at position
        rw [Text.utf8ByteSize_ofList]
        exact position.symm

end Vigil.Token
