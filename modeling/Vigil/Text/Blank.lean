/-!
# Blank characters

The characters that may stand between two words, and the text that is left when those at its
ends are taken away.
-/

namespace Vigil.Text

/-- The twenty-five characters with Unicode's property `White_Space`. -/
def isBlank (character : Char) : Bool :=
  let code := character.toNat
  (0x9 ≤ code && code ≤ 0xd) || code == 0x20 || code == 0x85 || code == 0xa0 || code == 0x1680 ||
    (0x2000 ≤ code && code ≤ 0x200a) || code == 0x2028 || code == 0x2029 || code == 0x202f ||
    code == 0x205f || code == 0x3000

/-- The characters from the first one that is not blank on. -/
def trimStart (characters : List Char) : List Char :=
  characters.dropWhile isBlank

/-- The characters up to the last one that is not blank. -/
def trimEnd (characters : List Char) : List Char :=
  (characters.reverse.dropWhile isBlank).reverse

/-- A text without the blank characters at its two ends. -/
def trim (text : String) : String :=
  String.ofList (trimEnd (trimStart text.toList))

/-- Every character that the core library takes for white space is blank. -/
theorem isBlank_of_isWhitespace {character : Char}
    (space : character.isWhitespace = true) : isBlank character = true := by
  simp only [Char.isWhitespace, Bool.or_eq_true, decide_eq_true_eq] at space
  rcases space with ((rfl | rfl) | rfl) | rfl <;> decide

end Vigil.Text
