import Vigil.Proofs.Expr.Cut
import Vigil.Proofs.Expr.Mentions

/-!
# Tokens tile the source

Every character of a source that is scanned is blank or belongs to one token, and a token can be
read off the piece of the source that its span takes: it is that piece as it is written, or for a
string literal what the marks enclose, without the backslashes that escape.

`Token.spans_tile_source` says this of all sources.  Where a source is no row of tokens, it is one
up to the place at which the fault is reported.
-/

namespace Vigil

/-! ## Pieces of a source -/

namespace Span

/-- A span takes a piece out of a source, which is cut between characters. -/
def Takes (span : Span) (source piece : String) : Prop :=
  ∃ before after : String,
    source = before ++ piece ++ after ∧ before.utf8ByteSize = span.start ∧
      (before ++ piece).utf8ByteSize = span.stop

/-- The byte at a position is one of those of a span. -/
def Contains (span : Span) (position : Nat) : Prop :=
  span.start ≤ position ∧ position < span.stop

end Span

namespace Token

/-- What stands inside a string literal, without the backslash of each escaped character. -/
def unescape : List Char → List Char
  | '\\' :: escaped :: rest => escaped :: unescape rest
  | character :: rest => character :: unescape rest
  | [] => []

/--
A token is written as a text.  Its value is this text, but for a string literal it is what the
text encloses in two equal marks, unescaped.
-/
def Spells (token : Token) (text : String) : Prop :=
  match token.kind with
  | .string =>
    ∃ (mark : Mark) (inside : List Char),
      text.toList = mark.character :: inside ++ [mark.character] ∧
        token.value.toList = unescape inside
  | _ => token.value = text

theorem stringBody_unescape {mark : Char} {characters value body after : List Char}
    (found : stringBody mark characters = some (value, body, after)) :
    ∃ inside, body = inside ++ [mark] ∧ value = unescape inside := by
  fun_induction stringBody mark characters generalizing value body after with
  | case1 => cases found
  | case2 => cases found
  | case3 escaped rest step =>
      obtain ⟨⟨_, _, _⟩, read, rebuilt⟩ := Option.bind_eq_some_iff.mp found
      cases rebuilt
      rcases step read with ⟨inside, rfl, rfl⟩
      exact ⟨'\\' :: escaped :: inside, rfl, by rw [unescape]⟩
  | case4 rest =>
      cases found
      exact ⟨[], rfl, by rw [unescape]⟩
  | case5 character rest notLast notEscape unlike step =>
      obtain ⟨⟨_, _, _⟩, read, rebuilt⟩ := Option.bind_eq_some_iff.mp found
      cases rebuilt
      rcases step read with ⟨inside, rfl, rfl⟩
      refine ⟨character :: inside, rfl, ?_⟩
      simp [unescape, ne_backslash notLast notEscape]

theorem spells_of_value {token : Token} {text : String} (other : token.kind ≠ .string)
    (same : token.value = text) : token.Spells text := by
  unfold Spells
  split
  · next kind => exact absurd kind other
  · exact same

theorem Lexes.spells {token : Token} {text following : List Char}
    (lexes : Lexes token.kind token.value.toList text following) :
    token.Spells (String.ofList text) := by
  generalize written : token.kind = kind at lexes
  generalize content : token.value.toList = value at lexes
  have same : token.value = String.ofList value := by rw [← content, String.ofList_toList]
  cases lexes with
  | @string mark value body following closed =>
      rcases stringBody_unescape closed with ⟨inside, rfl, rfl⟩
      rw [Spells, written]
      exact ⟨mark, inside, String.toList_ofList, content⟩
  | word => exact spells_of_value (by rw [written]; exact wordKind_ne_literal (.inr rfl) _ _) same
  | number | leftParen | rightParen | comma | operator =>
      exact spells_of_value (by simp [written]) same

/-! ## Texts that are cut -/

namespace Cut

variable {following characters : List Char} {offset : Nat} {tokens : List Token}

/-- A token is written as the characters at its place. -/
theorem exists_text (cut : Cut following offset characters tokens) :
    ∀ token ∈ tokens, ∃ before text after,
      characters = before ++ text ++ after ∧
        offset + Text.byteLength before = token.span.start ∧
        offset + Text.byteLength (before ++ text) = token.span.stop ∧
        Lexes token.kind token.value.toList text (after ++ following) := by
  induction cut with
  | nil => simp
  | @blank offset character rest tokens isBlank cut induction =>
      intro token member
      obtain ⟨before, text, after, rfl, start, stop, lexes⟩ := induction token member
      rw [Nat.add_assoc, ← Text.byteLength] at start stop
      exact ⟨character :: before, text, after, rfl, start, stop, lexes⟩
  | @token offset kind value text rest tokens lexes cut induction =>
      intro token member
      cases member with
      | head =>
          refine ⟨[], text, rest, rfl, rfl, rfl, ?_⟩
          rw [String.toList_ofList]
          exact lexes
      | tail _ member =>
          obtain ⟨before, text', after, rfl, start, stop, lexes'⟩ := induction token member
          rw [Nat.add_assoc, ← Text.byteLength_append] at start stop
          rw [← List.append_assoc] at stop
          exact ⟨text ++ before, text', after, by simp, start, stop, lexes'⟩

/-- What no token takes is blank. -/
theorem isBlank_of_outside {before after : List Char} {character : Char}
    (cut : Cut following offset (before ++ character :: after) tokens)
    (outside : ∀ token ∈ tokens, ¬token.span.Contains (offset + Text.byteLength before)) :
    Text.isBlank character = true := by
  have between : ∀ token ∈ tokens,
      token.span.stop ≤ offset + Text.byteLength before ∨
        offset + Text.byteLength before ≤ token.span.start := by
    intro token member
    have outside := outside token member
    rw [Span.Contains] at outside
    omega
  obtain ⟨earlier, later, rfl, -, cut'⟩ := cut.split between
  generalize place : offset + Text.byteLength before = offset' at cut'
  generalize rest : character :: after = characters at cut'
  cases cut' with
  | nil => cases rest
  | blank isBlank =>
      cases rest
      exact isBlank
  | @token _ kind value text _ tokens lexes =>
      rcases lexes.starts with ⟨first, more, rfl, -⟩
      have inhabited := Text.byteLength_pos (List.cons_ne_nil first more)
      refine absurd ?_ (outside _ (List.mem_append_right _ List.mem_cons_self))
      rw [place]
      constructor
      · exact Nat.le_refl _
      · exact Nat.lt_add_of_pos_right inhabited

end Cut

/--
The tokens of a source do not overlap and are in order; each takes a piece of the source that it
spells, and what none of them takes is blank.  A source without tokens is faulty at a place up to
which it has tokens.
-/
theorem spans_tile_source (source : String) :
    (∀ tokens, tokenize source = .ok tokens →
      (tokens.Pairwise fun first second => first.span.stop ≤ second.span.start) ∧
      (∀ token ∈ tokens,
        token.span.start < token.span.stop ∧ token.span.stop ≤ source.utf8ByteSize ∧
          ∃ text, token.span.Takes source text ∧ token.Spells text) ∧
      ∀ before character after,
        source = before ++ String.singleton character ++ after →
        (∀ token ∈ tokens, ¬token.span.Contains before.utf8ByteSize) →
        Text.isBlank character = true) ∧
    ∀ error, tokenize source = .error error →
      ∃ before after tokens,
        source = before ++ after ∧ before.utf8ByteSize = error.position ∧
          tokenize before = .ok tokens := by
  constructor
  · intro tokens tokenized
    rw [tokenize_eq_ok_iff] at tokenized
    refine ⟨tokenized.ordered, ?_, ?_⟩
    · intro token member
      obtain ⟨-, inhabited, within⟩ := tokenized.bounds token member
      rw [Nat.zero_add, Text.byteLength_toList] at within
      refine ⟨inhabited, within, ?_⟩
      obtain ⟨before, text, after, whole, start, stop, lexes⟩ :=
        tokenized.exists_text token member
      rw [Nat.zero_add] at start stop
      refine ⟨String.ofList text, ⟨String.ofList before, String.ofList after, ?_, ?_, ?_⟩,
        lexes.spells⟩
      · rw [← String.ofList_append, ← String.ofList_append, ← whole, String.ofList_toList]
      · rw [Text.utf8ByteSize_ofList, start]
      · rw [← String.ofList_append, Text.utf8ByteSize_ofList, stop]
    · rintro before character after rfl outside
      have split : (before ++ String.singleton character ++ after).toList =
          before.toList ++ character :: after.toList := by
        simp [String.toList_append]
      rw [split] at tokenized
      apply tokenized.isBlank_of_outside
      intro token member
      rw [Nat.zero_add, Text.byteLength_toList]
      exact outside token member
  · intro error failed
    obtain ⟨before, after, tokens, whole, position, cut⟩ := cut_of_tokenize_error failed
    have nothing : ∀ next ∈ ([] : List Char).head?, Text.isBlank next = true := by simp
    rcases cut.before nothing with ⟨tokens', cut', -⟩
    exact ⟨before, after, tokens', whole, position, tokenize_eq_ok_iff.mpr cut'⟩

/-- A literal with an escaped mark, between letters that take two bytes each. -/
theorem spans_tile_source_escaped :
    (∃ text,
      Span.Takes ⟨3, 11⟩ "f( 'ü\\'é' )" text ∧ Spells ⟨.string, "ü'é", ⟨3, 11⟩⟩ text) ∧
    ∃ error before after tokens,
      tokenize "f( 'ü' ) ∧" = .error error ∧ "f( 'ü' ) ∧" = before ++ after ∧
        before.utf8ByteSize = error.position ∧ tokenize before = .ok tokens := by
  constructor
  · have tokenized :
        tokenize "f( 'ü\\'é' )" =
          .ok
            [⟨.function, "f", ⟨0, 1⟩⟩, ⟨.leftParen, "(", ⟨1, 2⟩⟩, ⟨.string, "ü'é", ⟨3, 11⟩⟩,
              ⟨.rightParen, ")", ⟨12, 13⟩⟩] :=
      eq_ok_of_toOption (by decide +kernel)
    exact (((spans_tile_source _).1 _ tokenized).2.1 ⟨.string, "ü'é", ⟨3, 11⟩⟩ (by simp)).2.2
  · cases outcome : tokenize "f( 'ü' ) ∧" with
    | ok tokens =>
        have failed : (tokenize "f( 'ü' ) ∧").toOption = none := by decide +kernel
        rw [outcome] at failed
        cases failed
    | error error =>
        obtain ⟨before, after, tokens, whole, position, tokenized⟩ :=
          (spans_tile_source _).2 error outcome
        exact ⟨error, before, after, tokens, rfl, whole, position, tokenized⟩

end Token

end Vigil
