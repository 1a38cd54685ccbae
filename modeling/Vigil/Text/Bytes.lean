/-!
# Bytes of a text

Positions in a text are counted in the bytes that its characters take in UTF-8.
-/

namespace Vigil.Text

/-- The number of bytes that characters take in UTF-8. -/
def byteLength : List Char → Nat
  | [] => 0
  | character :: rest => character.utf8Size + byteLength rest

/-- The characters that are left when those in the first `count` bytes are taken away. -/
def dropBytes : (count : Nat) → List Char → List Char
  | 0, characters => characters
  | _ + 1, [] => []
  | count + 1, character :: rest => dropBytes (count + 1 - character.utf8Size) rest

/-- As many characters from the front as fit into `count` bytes. -/
def takeBytes : (count : Nat) → List Char → List Char
  | _, [] => []
  | count, character :: rest =>
    if character.utf8Size ≤ count then
      character :: takeBytes (count - character.utf8Size) rest
    else
      []

theorem byteLength_append (first second : List Char) :
    byteLength (first ++ second) = byteLength first + byteLength second := by
  induction first with
  | nil => exact (Nat.zero_add _).symm
  | cons character rest step => rw [List.cons_append, byteLength, step, byteLength, Nat.add_assoc]

theorem byteLength_pos {characters : List Char} (inhabited : characters ≠ []) :
    0 < byteLength characters := by
  cases characters with
  | nil => exact absurd rfl inhabited
  | cons character rest => exact Nat.add_pos_left character.utf8Size_pos _

/-- A text takes the bytes of the characters that it is made of. -/
theorem utf8ByteSize_ofList (characters : List Char) :
    (String.ofList characters).utf8ByteSize = byteLength characters := by
  induction characters with
  | nil => rfl
  | cons character rest step =>
    have whole : String.ofList (character :: rest) =
        String.singleton character ++ String.ofList rest := by
      rw [String.singleton_eq_ofList, ← String.ofList_append]
      rfl
    rw [byteLength, ← step, whole, String.utf8ByteSize_append, String.utf8ByteSize_singleton]

theorem byteLength_toList (text : String) : byteLength text.toList = text.utf8ByteSize := by
  rw [← utf8ByteSize_ofList, String.ofList_toList]

/-! ## Cutting at a byte -/

theorem dropBytes_append (before after : List Char) :
    dropBytes (byteLength before) (before ++ after) = after := by
  induction before with
  | nil => rw [byteLength, List.nil_append, dropBytes]
  | cons character rest step =>
    obtain ⟨count, same⟩ := Nat.exists_eq_add_one.mpr
      (byteLength_pos (List.cons_ne_nil character rest))
    rw [List.cons_append, same, dropBytes, ← same, byteLength, Nat.add_sub_cancel_left, step]

theorem takeBytes_prefix (count : Nat) (characters : List Char) :
    takeBytes count characters <+: characters := by
  fun_induction takeBytes count characters with
  | case1 => exact List.nil_prefix
  | case2 count character rest fits step => exact List.cons_prefix_cons.mpr ⟨rfl, step⟩
  | case3 => exact List.nil_prefix

theorem byteLength_takeBytes_le (count : Nat) (characters : List Char) :
    byteLength (takeBytes count characters) ≤ count := by
  fun_induction takeBytes count characters with
  | case1 => exact Nat.zero_le _
  | case2 count character rest fits step =>
    rw [byteLength]
    omega
  | case3 => exact Nat.zero_le _

/-- No piece that fits goes beyond the one that is taken. -/
theorem prefix_takeBytes {count : Nat} {piece characters : List Char}
    (starts : piece <+: characters) (fits : byteLength piece ≤ count) :
    piece <+: takeBytes count characters := by
  induction characters generalizing count piece with
  | nil =>
    rw [List.prefix_nil.mp starts]
    exact List.nil_prefix
  | cons character rest step =>
    cases piece with
    | nil => exact List.nil_prefix
    | cons first more =>
      obtain ⟨rfl, continues⟩ := List.cons_prefix_cons.mp starts
      rw [byteLength] at fits
      rw [takeBytes, if_pos (by omega), List.cons_prefix_cons]
      exact ⟨rfl, step continues (by omega)⟩

/-- Four bytes are enough for any character. -/
theorem takeBytes_ne_nil {count : Nat} {characters : List Char} (room : 4 ≤ count)
    (inhabited : characters ≠ []) : takeBytes count characters ≠ [] := by
  obtain ⟨first, rest, rfl⟩ := List.exists_cons_of_ne_nil inhabited
  have fits : first.utf8Size ≤ count := Nat.le_trans first.utf8Size_le_four room
  rw [takeBytes, if_pos fits]
  exact List.cons_ne_nil first _

end Vigil.Text
