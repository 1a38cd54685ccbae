import Vigil.Expr.Operator
import Vigil.Expr.Token
import Vigil.Value

/-!
# Expression trees

The structure of an expression: literals, calls of functions, and operators over operands.
Parentheses leave no trace.
-/

namespace Vigil

/-- A node of an expression, with its operands. A call keeps the bytes that it was read from. -/
inductive Tree where
  | literal (value : Value)
  | call (name : String) (arguments : List Tree) (span : Span)
  | unary (op : UnaryOp) (operand : Tree)
  | binary (op : BinaryOp) (left right : Tree)

/-- A call without its arguments: the function, how many arguments it is given, and where. -/
structure Call where
  name : String
  argumentCount : Nat
  span : Span
deriving DecidableEq, Repr

namespace Tree

mutual

/-- The calls of a tree, each before those in its arguments, from left to right. -/
def calls : Tree → List Call
  | literal _ => []
  | call name arguments span => ⟨name, arguments.length, span⟩ :: callsOfAll arguments
  | unary _ operand => operand.calls
  | binary _ left right => left.calls ++ right.calls

/-- The calls of several trees, tree by tree. -/
def callsOfAll : List Tree → List Call
  | [] => []
  | tree :: rest => tree.calls ++ callsOfAll rest

end

/-- The distinct names of the functions called in a tree, by first occurrence. -/
def functionNames (tree : Tree) : List String :=
  (tree.calls.map Call.name).eraseDups

/-- Induction on trees, where all arguments of a call count as smaller than the call. -/
@[induction_eliminator]
theorem induction {motive : Tree → Prop}
    (literal : ∀ value, motive (.literal value))
    (call : ∀ name arguments span,
      (∀ argument ∈ arguments, motive argument) → motive (.call name arguments span))
    (unary : ∀ op operand, motive operand → motive (.unary op operand))
    (binary : ∀ op left right, motive left → motive right → motive (.binary op left right)) :
    ∀ tree, motive tree
  | .literal value => literal value
  | .call name arguments span =>
    call name arguments span fun argument _ => induction literal call unary binary argument
  | .unary op operand => unary op operand (induction literal call unary binary operand)
  | .binary op left right =>
    binary op left right (induction literal call unary binary left)
      (induction literal call unary binary right)

theorem callsOfAll_eq_flatMap (trees : List Tree) : callsOfAll trees = trees.flatMap calls := by
  induction trees with
  | nil => rfl
  | cons tree rest step => simp [callsOfAll, step]

end Tree

end Vigil
