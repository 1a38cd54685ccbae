import Mathlib.Data.List.DropRight

/-!
# The newest elements of a list

Where room is bounded, the newest elements of all that came in are kept.  What came in is a list
that grows at its end, and what is kept of it is `List.rtake`.  The main lemma is
`rtake_newest_append`: it makes no difference to what is kept next that the oldest elements are
gone.
-/

namespace Vigil

variable {α : Type} {list : List α} {count : Nat}

theorem rtake_of_length_le (small : list.length ≤ count) : list.rtake count = list := by
  rw [List.rtake, Nat.sub_eq_zero_of_le small, List.drop_zero]

theorem rtake_cons_of_le (first : α) (enough : count ≤ list.length) :
    (first :: list).rtake count = list.rtake count := by
  rw [List.rtake, List.length_cons, Nat.succ_sub enough, List.drop_succ_cons, List.rtake]

theorem length_rtake (list : List α) (count : Nat) :
    (list.rtake count).length = min count list.length := by
  rw [List.rtake_eq_reverse_take_reverse, List.length_reverse, List.length_take,
    List.length_reverse]

/-- The newest elements are found among the newest ones and what comes after them. -/
theorem rtake_newest_append (list later : List α) (count : Nat) :
    (list.rtake count ++ later).rtake count = (list ++ later).rtake count := by
  simp only [List.rtake_eq_reverse_take_reverse, List.reverse_append, List.reverse_reverse,
    List.take_append, List.take_take]
  rw [Nat.min_eq_left (Nat.sub_le ..)]

end Vigil
