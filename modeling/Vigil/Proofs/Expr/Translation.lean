import Vigil.Proofs.Expr.Correspondence

/-!
# Evaluation does not depend on the monad

An expression is evaluated in whatever monad its functions are called in.  A translation takes the
actions of one monad to those of another and keeps sequences of actions.  `Translation.evaluate`
says that it makes no difference whether a tree is evaluated before or after it is translated: only
the functions that the tree calls have to be translated.
-/

namespace Vigil

/-- A map from the actions of one monad to those of another that respects their sequences. -/
structure Translation (m n : Type → Type) [Monad m] [Monad n] where
  apply : {α : Type} → m α → n α
  apply_pure : ∀ {α : Type} (result : α), apply (pure result : m α) = pure result
  apply_map : ∀ {α β : Type} (change : α → β) (action : m α),
    apply (change <$> action) = change <$> apply action
  apply_bind : ∀ {α β : Type} (action : m α) (next : α → m β),
    apply (action >>= next) = apply action >>= fun result => apply (next result)

namespace Translation

variable {m n : Type → Type} [Monad m] [Monad n] (translation : Translation m n)
variable {Code : Type}

/-- The functions that an environment reaches, as the other monad reaches them. -/
def environment (source : Environment m Code) : Environment n Code where
  lookup? := fun name => translation.apply (source.lookup? name)
  call := fun code arguments => translation.apply (source.call code arguments)

theorem bind {α β : Type} {action : m α} {action' : n α} {next : α → m β} {next' : α → n β}
    (first : translation.apply action = action')
    (second : ∀ result, translation.apply (next result) = next' result) :
    translation.apply (action >>= next) = action' >>= next' := by
  rw [translation.apply_bind, first]
  exact congrArg (action' >>= ·) (funext second)

/-- An action corresponds to what it is translated to. -/
def correspondence : Correspondence m n where
  Holds := fun action action' => translation.apply action = action'
  holds_pure := translation.apply_pure
  holds_map := by
    rintro α β change action _ rfl
    exact translation.apply_map change action
  holds_bind := translation.bind

/-- A tree has the same outcome whether it is evaluated before or after the translation. -/
theorem evaluate (source : Environment m Code) (tree : Tree) :
    translation.apply (tree.evaluate source).run =
      (tree.evaluate (translation.environment source)).run := by
  refine translation.correspondence.evaluate (fun name => ?_) (fun code arguments => ?_) tree
  · exact rfl
  · exact rfl

end Translation

end Vigil
