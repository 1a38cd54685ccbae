import Vigil.Expr.Token.Scan
import Vigil.Expr.Tree.OfTokens

/-!
# Expressions

A source text together with the tree that it was read as.
-/

namespace Vigil

/-- An expression that has been read. -/
structure Expression where
  source : String
  tree : Tree

namespace Expression

/-- The tree of a source text, or where and why it is no expression. -/
def read (source : String) : Except SyntaxFailure Tree := do
  let tokens ← Token.scan source
  Tree.ofTokens source.utf8ByteSize tokens

/-- Read an expression, or report the first fault of the text. -/
def parse (source : String) : Except SyntaxError Expression :=
  match read source with
  | .ok tree => .ok ⟨source, tree⟩
  | .error failure => .error (SyntaxError.ofFailure source failure)

/-- The distinct names of the functions that an expression calls, by first occurrence. -/
def functionNames (expression : Expression) : List String :=
  expression.tree.functionNames

end Expression

end Vigil
