import Vigil.Table

/-!
# Event bindings

Which functions an event of the host program may have changed. Binding an event again adds the
functions that it is not bound to yet.
-/

namespace Vigil

/-- The names of functions that an event touches, in order and without repetition. -/
abbrev EventBindings : Type := Table String (List String)

namespace EventBindings

/-- Append the names that are not in a list yet. -/
def merge (known : List String) : List String → List String
  | [] => known
  | name :: rest => if name ∈ known then merge known rest else merge (known ++ [name]) rest

/-- The functions that an event touches, if it is bound. -/
def touches? (bindings : EventBindings) (event : String) : Option (List String) :=
  bindings.get? event

/-- Let an event touch some functions in addition to those that it touches already. -/
def bind (bindings : EventBindings) (event : String) (names : List String) : EventBindings :=
  bindings.put event (merge ((bindings.get? event).getD []) names)

/-- Bind no event any more. -/
def clear (_ : EventBindings) : EventBindings :=
  .empty

end EventBindings

end Vigil
