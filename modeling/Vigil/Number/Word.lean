/-!
# Integers of 64 bits

The integers that fit into a word, with a sign and without one, or at least into two words.
-/

namespace Vigil.Word

/-- The number of words of 63 bits. -/
def half : Nat := 9223372036854775808

/-- An integer, if it fits into 64 bits with a sign. -/
def signed? (value : Int) : Option Int :=
  if -(half : Int) ≤ value ∧ value < half then some value else none

/-- An integer, if it fits into 64 bits without a sign. -/
def unsigned? (value : Int) : Option Nat :=
  if 0 ≤ value ∧ value < 2 * half then some value.toNat else none

/-- An integer, if it fits into 128 bits, with a sign or without one. -/
def double? (value : Int) : Option Int :=
  if -(2 * half * half : Int) ≤ value ∧ value < 4 * half * half then some value else none

end Vigil.Word
