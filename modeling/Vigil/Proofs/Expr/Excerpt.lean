import Vigil.Proofs.Expr.Viability

/-!
# What a syntax error shows of the source

A syntax error is reported at a byte at which a character of the source begins, or at its end, and
it shows the source from there on.  It shows as many whole characters as go into sixteen bytes, and
since no character takes more than four, it shows one at least.

`SyntaxError.shows_longest_piece` says this of every source that is rejected, by the scanner or by
the reader.
-/

namespace Vigil

/--
A text begins with a piece that takes at most so many bytes, and with no longer one.  Pieces are
made of whole characters.
-/
structure Text.LongestPiece (count : Nat) (text piece : String) : Prop where
  begins : ∃ rest, text = piece ++ rest
  fits : piece.utf8ByteSize ≤ count
  longest : ∀ other rest : String,
    text = other ++ rest → other.utf8ByteSize ≤ count → ∃ more, piece = other ++ more

namespace SyntaxError

/-! ## The excerpt -/

theorem contextAt_end (source : String) :
    contextAt source source.utf8ByteSize = "<end of input>" := by
  have nothing := Text.dropBytes_append source.toList []
  rw [List.append_nil, Text.byteLength_toList] at nothing
  rw [contextAt, nothing]

/-- Before the end, an error shows the longest piece that fits. -/
theorem contextAt_append (before : String) {after : String} (further : after ≠ "") :
    contextAt (before ++ after) before.utf8ByteSize ≠ "" ∧
      Text.LongestPiece contextBytes after (contextAt (before ++ after) before.utf8ByteSize) := by
  have inhabited : after.toList ≠ [] := by simpa using further
  have left := Text.dropBytes_append before.toList after.toList
  rw [Text.byteLength_toList, ← String.toList_append] at left
  have shown : contextAt (before ++ after) before.utf8ByteSize =
      String.ofList (Text.takeBytes contextBytes after.toList) := by
    rw [contextAt, left]
    split
    · next ended => exact absurd ended inhabited
    · rfl
  rw [shown]
  refine ⟨?_, ?_, ?_, ?_⟩
  · rw [ne_eq, String.ofList_eq_empty_iff]
    exact Text.takeBytes_ne_nil (by decide) inhabited
  · rcases Text.takeBytes_prefix contextBytes after.toList with ⟨rest, whole⟩
    exact ⟨String.ofList rest, by rw [← String.ofList_append, whole, String.ofList_toList]⟩
  · rw [Text.utf8ByteSize_ofList]
    exact Text.byteLength_takeBytes_le contextBytes after.toList
  · rintro other rest rfl fits
    rw [← Text.byteLength_toList] at fits
    have starts : other.toList <+: (other ++ rest).toList := by
      rw [String.toList_append]
      exact List.prefix_append other.toList rest.toList
    rcases Text.prefix_takeBytes starts fits with ⟨more, whole⟩
    exact ⟨String.ofList more, by rw [← whole, String.ofList_append, String.ofList_toList]⟩

end SyntaxError

/-! ## Where errors are reported -/

/-- The place of a token, or the end of the source, is between two characters. -/
theorem Token.exists_before_place {source : String} {earlier later : List Token}
    (tokenized : Token.tokenize source = .ok (earlier ++ later)) :
    ∃ before after : String,
      source = before ++ after ∧ before.utf8ByteSize = Tree.place source.utf8ByteSize later := by
  rw [Token.tokenize_eq_ok_iff] at tokenized
  obtain ⟨before, after, whole, -, -, place⟩ := tokenized.split_tokens
  rw [Nat.zero_add, Nat.zero_add, Text.byteLength_toList] at place
  refine ⟨String.ofList before, String.ofList after, ?_, ?_⟩
  · rw [← String.ofList_append, ← whole, String.ofList_toList]
  · rw [Text.utf8ByteSize_ofList, place]

/-- What the scanner reports is a failure at some place. -/
theorem Token.exists_failure_of_tokenize {source : String} {error : SyntaxError}
    (rejected : tokenize source = .error error) :
    ∃ failure, scan source = .error failure ∧ error = .ofFailure source failure := by
  rw [tokenize] at rejected
  cases scanned : scan source with
  | ok tokens =>
      rw [scanned] at rejected
      cases rejected
  | error failure =>
      rw [scanned] at rejected
      cases rejected
      exact ⟨failure, rfl, rfl⟩

/-- A source is rejected by the scanner, or else for its tokens. -/
theorem Expression.parse_eq_error {source : String} {error : SyntaxError}
    (rejected : parse source = .error error) :
    Token.tokenize source = .error error ∨
      ∃ tokens failure,
        Token.tokenize source = .ok tokens ∧ error = .ofFailure source failure ∧
          Tree.ofTokens source.utf8ByteSize tokens = .error failure := by
  cases tokenized : Token.tokenize source with
  | error other =>
      rcases Token.exists_failure_of_tokenize tokenized with ⟨failure, scanned, rfl⟩
      rw [parse, read, scanned] at rejected
      cases rejected
      exact .inl rfl
  | ok tokens =>
      rw [parse, read_eq_of_tokenize tokenized] at rejected
      split at rejected
      · cases rejected
      · next failure failed =>
        cases rejected
        exact .inr ⟨tokens, failure, rfl, rfl, failed⟩

namespace SyntaxError

/-- The place of an error divides the source, and the error shows the source from there on. -/
theorem exists_division {source : String} {error : SyntaxError}
    (rejected : Token.tokenize source = .error error ∨ Expression.parse source = .error error) :
    ∃ before after : String,
      source = before ++ after ∧ before.utf8ByteSize = error.position ∧
        error.context = contextAt source error.position := by
  have scanner (rejected : Token.tokenize source = .error error) :
      ∃ before after : String,
        source = before ++ after ∧ before.utf8ByteSize = error.position ∧
          error.context = contextAt source error.position := by
    obtain ⟨before, after, -, whole, position, -⟩ := Token.cut_of_tokenize_error rejected
    rcases Token.exists_failure_of_tokenize rejected with ⟨failure, -, rfl⟩
    exact ⟨before, after, whole, position, rfl⟩
  rcases rejected with rejected | rejected
  · exact scanner rejected
  · rcases Expression.parse_eq_error rejected with
      rejected | ⟨tokens, failure, tokenized, rfl, failed⟩
    · exact scanner rejected
    · have called := (Token.tokenize_eq_ok_iff.mp tokenized).called
      rcases Tree.ofTokens_viable failed called with ⟨earlier, later, rfl, position, -⟩ | position
      · rcases Token.exists_before_place tokenized with ⟨before, after, whole, place⟩
        exact ⟨before, after, whole, place.trans position.symm, rfl⟩
      · exact ⟨"", source, by simp, position.symm, rfl⟩

/--
However a source is rejected, the place of the error lies within it and between two of its
characters.  At the end of the source the error says so; elsewhere it shows the longest piece of
what follows that goes into sixteen bytes, and this piece is not empty.
-/
theorem shows_longest_piece {source : String} {error : SyntaxError}
    (rejected : Token.tokenize source = .error error ∨ Expression.parse source = .error error) :
    error.position ≤ source.utf8ByteSize ∧
    ∃ before after : String,
      source = before ++ after ∧ before.utf8ByteSize = error.position ∧
      (error.position = source.utf8ByteSize → error.context = "<end of input>") ∧
      (error.position ≠ source.utf8ByteSize →
        error.context ≠ "" ∧ Text.LongestPiece 16 after error.context) := by
  obtain ⟨before, after, rfl, position, context⟩ := exists_division rejected
  rw [context, ← position]
  refine ⟨?_, before, after, rfl, rfl, ?_, ?_⟩
  · rw [String.utf8ByteSize_append]
    exact Nat.le_add_right _ _
  · intro ended
    rw [ended]
    exact contextAt_end (before ++ after)
  · intro inside
    apply contextAt_append before
    rintro rfl
    exact inside (by simp)

/-- Where the sixteenth byte is inside a character, an error shows fewer bytes. -/
theorem shows_longest_piece_cut :
    ∃ (error : SyntaxError) (before after : String),
      Expression.parse "'a' 'ü日本語日本'" = .error error ∧ error.position = 4 ∧
        "'a' 'ü日本語日本'" = before ++ after ∧ before.utf8ByteSize = error.position ∧
          error.context = "'ü日本語日" ∧ Text.LongestPiece 16 after error.context := by
  let first : Token := ⟨.string, "a", ⟨0, 3⟩⟩
  let second : Token := ⟨.string, "ü日本語日本", ⟨4, 23⟩⟩
  have tokenized : Token.tokenize "'a' 'ü日本語日本'" = .ok [first, second] :=
    eq_ok_of_toOption (by decide +kernel)
  have failed (finish : Nat) :
      Tree.ofTokens finish [first, second] = .error ⟨4, .trailingToken "ü日本語日本"⟩ := by
    have value : Derives (.expression 0 0) 0 [first] [.literal (.text "a")] := .literal rfl
    have ends : Token.Follow 6 [second] := Token.follow_of_kind (by simp [second])
    have read := ((value.operand 6).reads finish).ofTier (Nat.zero_le maxNesting) ends
    rw [List.singleton_append] at read
    rw [Tree.ofTokens, BinaryOp.loosest, read]
    rfl
  have rejected : ∃ error, Expression.parse "'a' 'ü日本語日本'" = .error error ∧
      error.position = 4 ∧ error.context = "'ü日本語日" := by
    rw [Expression.parse, Expression.read_eq_of_tokenize tokenized, failed]
    exact ⟨_, rfl, rfl, by decide +kernel⟩
  obtain ⟨error, rejected, place, context⟩ := rejected
  obtain ⟨-, before, after, whole, position, -, shown⟩ := shows_longest_piece (.inr rejected)
  have inside : error.position ≠ "'a' 'ü日本語日本'".utf8ByteSize := by
    rw [place]
    decide +kernel
  exact ⟨error, before, after, rejected, place, whole, position, context, (shown inside).2⟩

end SyntaxError

end Vigil
