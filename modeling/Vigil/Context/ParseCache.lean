import Vigil.Expression
import Vigil.Table

/-!
# The parse cache

Expressions are kept by their source text, so that a text which is read again need not be parsed
again. Beside the entries stands a queue of their texts, and when the cache is full the entry of the
text that has waited longest goes; being read again does not make a text newer. A cache of capacity
zero keeps nothing.

Every tree that is built has a number, by which two readings of one text can be told apart.
-/

namespace Vigil

/-- An expression and the number of its tree. -/
structure Parsed where
  expression : Expression
  number : Nat

/-- The expressions kept, the queue of their texts, oldest first, and how many trees were built. -/
structure ParseCache where
  capacity : Nat
  entries : Table String Parsed
  queue : List String
  built : Nat

namespace ParseCache

/-- A cache that keeps nothing yet. -/
def new (capacity : Nat) : ParseCache where
  capacity := capacity
  entries := .empty
  queue := []
  built := 0

/-- The expression kept for a source text. -/
def get? (cache : ParseCache) (source : String) : Option Parsed :=
  cache.entries.get? source

/-- Let entries go in the order of a queue, until one more has a place or the queue is empty. -/
def makeRoom (capacity : Nat) (entries : Table String Parsed) :
    List String → Table String Parsed × List String
  | [] => (entries, [])
  | oldest :: rest =>
    if entries.size < capacity then (entries, oldest :: rest)
    else makeRoom capacity (entries.erase oldest) rest

/-- Keep an expression whose text is not kept yet, and let those go for which there is no place. -/
def insert (cache : ParseCache) (parsed : Parsed) : ParseCache :=
  let source := parsed.expression.source
  if cache.capacity = 0 || (cache.get? source).isSome then
    cache
  else
    let (entries, queue) := makeRoom cache.capacity cache.entries cache.queue
    { cache with
      entries := entries.put source parsed
      queue := queue ++ [source] }

/-- The expression of a source text, from the cache or read anew. Errors are not kept. -/
def parse (cache : ParseCache) (source : String) : Except SyntaxError Parsed × ParseCache :=
  match cache.get? source with
  | some parsed => (.ok parsed, cache)
  | none =>
    match Expression.parse source with
    | .error error => (.error error, cache)
    | .ok expression =>
      let parsed : Parsed := ⟨expression, cache.built⟩
      (.ok parsed, { cache.insert parsed with built := cache.built + 1 })

end ParseCache

end Vigil
