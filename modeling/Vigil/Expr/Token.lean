import Vigil.Expr.Operator

/-!
# Tokens

The units of an expression's text, each with the bytes that it takes.
-/

namespace Vigil

/-- A range of bytes, from `start` up to but not including `stop`. -/
structure Span where
  start : Nat
  stop : Nat
deriving DecidableEq, Repr

/-- The kinds of tokens. A name is a `function` where a parenthesis follows it. -/
inductive TokenKind where
  | boolean
  | number
  | string
  | identifier
  | function
  | operator (written : Operator)
  | leftParen
  | rightParen
  | comma
deriving DecidableEq, Repr

/--
A token. Its value is the text it was written with, but for a string literal the text that the
literal stands for.
-/
structure Token where
  kind : TokenKind
  value : String
  span : Span
deriving DecidableEq, Repr

namespace Token

/-- The names of the function tokens, in order. -/
def functions (tokens : List Token) : List String :=
  (tokens.filter (·.kind == .function)).map Token.value

/-- The distinct names of the function tokens, by first occurrence. -/
def functionNames (tokens : List Token) : List String :=
  (functions tokens).eraseDups

end Token

end Vigil
