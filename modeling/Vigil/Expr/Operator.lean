/-!
# Operators

The operators of the expression language as they are written, and as nodes of a tree. Binary
operators form six tiers; an operator of a higher tier binds its operands less tightly.
-/

namespace Vigil

/-- An operator as it is written, in any of its spellings. -/
inductive Operator where
  | and | or | not
  | eq | ne | lt | le | gt | ge
  | add | sub | mul | div | rem
deriving DecidableEq, Repr

/-- The spelling of an operator in diagnostics. -/
def Operator.symbol : Operator → String
  | and => "AND"
  | or => "OR"
  | not => "NOT"
  | eq => "="
  | ne => "!="
  | lt => "<"
  | le => "<="
  | gt => ">"
  | ge => ">="
  | add => "+"
  | sub => "-"
  | mul => "*"
  | div => "/"
  | rem => "%"

/-- An operator in front of its operand. -/
inductive UnaryOp where
  | not | neg
deriving DecidableEq, Repr

/-- How a unary operator is written. -/
def UnaryOp.operator : UnaryOp → Operator
  | not => .not
  | neg => .sub

/-- An operator between its operands. -/
inductive BinaryOp where
  | and | or
  | eq | ne | lt | le | gt | ge
  | add | sub | mul | div | rem
deriving DecidableEq, Repr

namespace BinaryOp

/-- How a binary operator is written. -/
def operator : BinaryOp → Operator
  | and => .and
  | or => .or
  | eq => .eq
  | ne => .ne
  | lt => .lt
  | le => .le
  | gt => .gt
  | ge => .ge
  | add => .add
  | sub => .sub
  | mul => .mul
  | div => .div
  | rem => .rem

/-- The tier of a binary operator; tier zero is that of the unary operators. -/
def tier : BinaryOp → Nat
  | mul | div | rem => 1
  | add | sub => 2
  | lt | le | gt | ge => 3
  | eq | ne => 4
  | and => 5
  | or => 6

/-- The binary operators tier by tier, those that bind most first. -/
def tiers : List (List BinaryOp) :=
  [[mul, div, rem], [add, sub], [lt, le, gt, ge], [eq, ne], [and], [or]]

/-- The tier of an operator is its row among the tiers, counted from one. -/
theorem tier_eq (op : BinaryOp) : op.tier = tiers.findIdx (op ∈ ·) + 1 := by
  cases op <;> decide

/-- The tier that binds least. -/
def loosest : Nat := 6

theorem tier_le_loosest (op : BinaryOp) : op.tier ≤ loosest := by
  cases op <;> decide

end BinaryOp

/-- The node that an operator stands for between two operands. -/
def Operator.binary? : Operator → Option BinaryOp
  | and => some .and
  | or => some .or
  | not => none
  | eq => some .eq
  | ne => some .ne
  | lt => some .lt
  | le => some .le
  | gt => some .gt
  | ge => some .ge
  | add => some .add
  | sub => some .sub
  | mul => some .mul
  | div => some .div
  | rem => some .rem

/-- The node that an operator stands for in front of an operand. -/
def Operator.unary? : Operator → Option UnaryOp
  | not => some .not
  | sub => some .neg
  | _ => none

@[simp]
theorem Operator.binary?_eq_some_iff {written : Operator} {op : BinaryOp} :
    written.binary? = some op ↔ written = op.operator := by
  cases written <;> cases op <;> decide

@[simp]
theorem Operator.unary?_eq_some_iff {written : Operator} {op : UnaryOp} :
    written.unary? = some op ↔ written = op.operator := by
  cases written <;> cases op <;> decide

end Vigil
