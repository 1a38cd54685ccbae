import Vigil.Proofs.Watch.History

/-!
# Modest callbacks

A callback that changes no subscription and lets nothing be touched leaves the record of its run as
it is, but for its own start and end.  It may still evaluate texts, register functions, bind events
or add probes, and it may fail or panic.  `Handlers.Modest` says this of the runs of callbacks, and
it follows where the code of callbacks and sensors asks for nothing else: what a piece of code is
allowed to ask for is preserved by every run of it, however deep it is nested.

The watcher changes with the record only, so modest callbacks leave the watcher alone.
-/

namespace Vigil.Hosting

variable {host : Host}

/-! ## Actions that put nothing on record -/

/-- The record is the same in the end. -/
def Action.KeepsRecord {α : Type} (action : Action host α) : Prop :=
  ∀ world : World host, (action.after world).events = world.events

namespace Action.KeepsRecord

variable {α β : Type}

theorem pure (result : α) : KeepsRecord (Pure.pure result : Action host α) :=
  fun _ => rfl

theorem throw (stop : Stop) : KeepsRecord (throwThe Stop stop : Action host α) :=
  fun _ => rfl

theorem bind {action : Action host α} {next : α → Action host β}
    (first : action.KeepsRecord) (second : ∀ result, (next result).KeepsRecord) :
    (action >>= next).KeepsRecord := by
  intro world
  have begun := first world
  cases ended : action world with
  | ok result later =>
      rw [after_of_ok ended] at begun
      rw [after_bind_of_ok ended]
      exact (second result later).trans begun
  | error stop later =>
      rw [after_of_error ended] at begun
      rw [after_of_error (bind_of_error ended)]
      exact begun

/-- What changes the context only is not on record. -/
theorem modify (change : Context host → α × Context host) :
    KeepsRecord (modifyGetThe (Context host) change : Action host α) :=
  fun _ => rfl

theorem settle {action : Action host (Except String Unit)} (keeps : action.KeepsRecord) :
    (Action.settle action).KeepsRecord := by
  intro world
  rw [after_settle]
  exact keeps world

/-- Keeping the record is a relation of an action to whatever there is on the other side. -/
def correspondence : Correspondence (Action host) (Action host) where
  Holds := fun action _ => action.KeepsRecord
  holds_pure := pure
  holds_bind := bind
  holds_map := fun _ _ _ keeps => bind keeps fun _ => pure _

end Action.KeepsRecord

open Vigil.Hosting.Action

/-! ## Requests -/

/-- Whether a request changes no subscription and lets nothing be touched. -/
def Request.isModest : Request host → Bool
  | .subscribe .. | .unsubscribe _ | .touch _ | .fireEvent _ | .tick | .unload => false
  | .register .. | .registerBuiltins | .parse _ | .compile _ | .evaluate _ | .evaluateText _ => true
  | .bindEvent .. | .addProbe .. | .look | .store _ => true

section Requests

variable {handlers : Handlers host}
variable (sensors : ∀ code arguments, (handlers.sensor code arguments).KeepsRecord)
include sensors

theorem evaluateExpression_keepsRecord (expression : Expression) :
    Action.KeepsRecord (Context.evaluate handlers.sensor expression) := by
  let environment := Context.environment handlers.sensor
  refine @Correspondence.evaluate _ _ _ _ KeepsRecord.correspondence _ environment environment
    (fun name => ?_) sensors expression.tree
  exact .bind (fun _ => rfl) fun context => .pure _

theorem perform_keepsRecord {request : Request host} (modest : request.isModest = true) :
    (perform handlers request).KeepsRecord := by
  cases request with
  | evaluate expression => exact evaluateExpression_keepsRecord sensors expression
  | evaluateText source =>
      refine .bind (.modify _) fun outcome => ?_
      cases outcome with
      | error error => exact .pure _
      | ok parsed =>
          refine .bind (evaluateExpression_keepsRecord sensors parsed.expression) fun answer => ?_
          cases answer <;> exact .pure _
  | subscribe | unsubscribe | touch | fireEvent | tick | unload => cases modest
  | look => exact fun _ => rfl
  | _ => exact .modify _

end Requests

/-! ## Code -/

/-- Code that makes modest requests only, whatever it is answered. -/
inductive Procedure.Modest {α : Type} : Procedure host α → Prop where
  | done (result : α) : Modest (.done result)
  | panic (message? : Option String) : Modest (.panic message?)
  | ask {request : Request host} {next : request.Answer → Procedure host α}
      (modest : request.isModest = true) (further : ∀ answer, Modest (next answer)) :
      Modest (.ask request next)

/-- A program whose callbacks make modest requests only, and so do the sensors that they call. -/
structure Program.Modest (program : Program host) : Prop where
  sensor : ∀ code arguments, (program.sensor code arguments).Modest
  callback : ∀ code, (program.callback code).Modest

/-- Callbacks that return have put nothing on record but their own start and end. -/
def Handlers.Modest (handlers : Handlers host) : Prop :=
  ∀ callback world outcome returned,
    handlers.callback callback world = .ok outcome returned →
      returned.events = world.events ++ [.started callback, .ended callback outcome]

theorem Procedure.Modest.keepsRecord {handlers : Handlers host}
    (sensors : ∀ code arguments, (handlers.sensor code arguments).KeepsRecord)
    {α : Type} {procedure : Procedure host α} (modest : procedure.Modest) :
    (procedure.run handlers).KeepsRecord := by
  induction modest with
  | done result => exact .pure result
  | panic message? => exact .throw (.panic message?)
  | ask modest further induction => exact .bind (perform_keepsRecord sensors modest) induction

/-- A callback is put on record where it starts and where it ends. -/
theorem Program.handlersBy_modest (program : Program host)
    {run : {α : Type} → Procedure host α → Action host α}
    (keeps : ∀ code, (run (program.callback code)).KeepsRecord) :
    (program.handlersBy run).Modest := by
  intro callback world outcome returned ended
  rcases bind_eq_ok ended with ⟨_, begun, recorded, continued⟩
  cases recorded
  rcases bind_eq_ok continued with ⟨result, later, settled, continued⟩
  rcases bind_eq_ok continued with ⟨_, last, recorded, finished⟩
  cases recorded
  cases finished
  have kept := (keeps callback).settle (world.record (.started callback))
  rw [after_of_ok settled] at kept
  show later.events ++ [.ended callback outcome] = _
  rw [kept]
  exact List.append_assoc world.events [.started callback] [.ended callback outcome]

namespace Program.Modest

variable {program : Program host} (modest : program.Modest)
include modest

/-- However deep sensors are nested, they put nothing on record. -/
theorem sensors (depth : Nat) :
    ∀ code arguments, ((program.handlers depth).sensor code arguments).KeepsRecord := by
  induction depth with
  | zero => exact fun _ _ => .throw .halt
  | succ depth induction =>
      exact fun code arguments => (modest.sensor code arguments).keepsRecord induction

theorem handlers (depth : Nat) : (program.handlers depth).Modest := by
  cases depth with
  | zero => exact program.handlersBy_modest fun _ => .throw .halt
  | succ depth =>
      exact program.handlersBy_modest fun code =>
        (modest.callback code).keepsRecord (modest.sensors depth)

end Program.Modest

/-! ## Watchers and their record -/

/-- Where the record shows no dealing with the watcher, there was none. -/
theorem World.Evolves.watcher_eq {before after : World host} (evolves : before.Evolves after)
    (same : after.dealings = before.dealings) : after.watcher = before.watcher := by
  induction evolves with
  | refl => rfl
  | @tail middle after evolved step induction =>
      have least := ((World.Evolves.grows evolved).filter Event.isDealing).length_le
      -- A dealing would stand on record after all that was there before.
      have undealt (event : Event host) : after.dealings ≠ middle.dealings ++ [event] := by
        intro dealt
        have most := congrArg List.length (dealt.symm.trans same)
        rw [List.length_append, List.length_singleton] at most
        exact absurd least (by simp only [World.dealings] at most; omega)
      cases step.dealing with
      | none watcher dealings => exact watcher.trans (induction (dealings.symm.trans same))
      | subscribed _ _ _ _ _ dealings => exact absurd dealings (undealt _)
      | unsubscribed _ _ _ _ dealings => exact absurd dealings (undealt _)
      | unloaded _ dealings => exact absurd dealings (undealt _)

section Returned

variable {handlers : Handlers host} (modest : handlers.Modest)
variable {callback : host.Callback} {world returned : World host} {outcome : Outcome}
variable (ended : handlers.callback callback world = .ok outcome returned)
include modest ended

theorem Handlers.Modest.starts : returned.starts = world.starts ++ [callback] := by
  rw [World.starts, modest _ _ _ _ ended, List.filterMap_append]
  rfl

theorem Handlers.Modest.watcher_eq (evolving : handlers.Evolving) :
    returned.watcher = world.watcher := by
  have evolves := evolving.callback callback world
  rw [after_of_ok ended] at evolves
  refine evolves.watcher_eq ?_
  rw [World.dealings, modest _ _ _ _ ended, List.filter_append]
  exact List.append_nil _

end Returned

end Vigil.Hosting
