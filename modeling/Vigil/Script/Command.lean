import Vigil.Context.Delivery

/-!
# Scripts

Programs for a context as data. A command is one operation on a context. Sensors, callbacks and
probes run steps of their own before they answer: commands again, or an early end by failure or
panic. So every way in which code of a host program can reach back into a context that is
running it has a script.
-/

namespace Vigil.Script

/-- How a sensor or a probe finds its answer. -/
inductive Answer where
  | evaluate (source : String)
  | fail (message : String)
  | argument (index : Nat)
  | stored (name : String)
  | sequence (values : List Value)
  | constant (value : Value)

mutual

/-- One operation on a context. -/
inductive Command where
  | register (name : String) (arity : Nat) (steps : List Step) (answer : Answer)
  | registerBuiltins
  | functionNames
  | evaluate (source : String)
  | isTrue (source : String)
  | parse (source slot : String)
  | compile (source slot : String)
  | runSlot (slot : String)
  | subscribe (label source : String) (steps : List Step)
  | unsubscribe (label : String)
  | watchedNames (label : String)
  | touch (name : String)
  | fireEvent (event : String)
  | bindEvent (event : String) (names : List String)
  | addProbe (sensor : String) (steps : List Step) (answer : Answer)
  | set (name : String) (value : Value)
  | tick
  | unload
  | strategyOf (sensor : String)
  | counts (name : String)
  | inspect

/-- A command inside a sensor, a callback or a probe, or an early end of it. -/
inductive Step where
  /-- Run a command; where it is `decisive`, its error ends the steps. -/
  | command (command : Command) (decisive : Bool)
  | fail (message : String)
  | panic (message? : Option String)

end

/-- A function that a script registered. -/
structure Sensor where
  name : String
  steps : List Step
  answer : Answer

/-- A callback that a script subscribed, under the label of its subscription. -/
structure Callback where
  label : String
  steps : List Step

/-- A probe that a script added. -/
structure Probe where
  name : String
  steps : List Step
  answer : Answer

/-- The errors of commands. -/
inductive Fault where
  | condition (error : ConditionError)
  | registry (error : RegistryError)
  | probe (error : ProbeError)
  | unknownLabel
  | emptySlot

/-- The wording of an error of a command. -/
def Fault.message : Fault → String
  | condition error => error.message
  | registry error => error.message
  | probe error => error.message
  | unknownLabel => ""
  | emptySlot => ""

/-- What a command answers. -/
inductive Result where
  | done
  | value (value : Value)
  | parsed (treeNumber : Nat) (names : List String)
  | subscribed (id : SubscriptionId)
  | removed (removed : Bool)
  | watched (names? : Option (List String))
  | touched (report : TouchReport)
  | changed (names : List String)
  | strategy (strategy : Strategy)
  | counts (subscriptions watching : Nat) (unloaded : Bool)
  | names (names : List String)
  | text (text : String)
  | fault (fault : Fault)

/-- What can be seen of the code that a command runs. -/
inductive Event where
  | called (name : String) (arguments : List Value)
  | fired (label : String)
  | sampled (name : String)
  | nested (within : String) (result : Result)

end Vigil.Script
