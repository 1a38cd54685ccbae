import Vigil.Log.Entry

/-!
# Log events

What is reported, before it is written down: a level, and values under names in the order in which
they are recorded. The value under the name `message` is the message of the entry, and every other
value is a field of it.
-/

namespace Vigil.Log

/-- A value as it is recorded: a text, a text in quotes, or anything else as it is shown. -/
inductive Recorded where
  | text (content : String)
  | quoted (content : String)
  | shown (form : String)
deriving DecidableEq, Repr

/-- What is written down of a recorded value. -/
def Recorded.written : Recorded → String
  | text content => content
  | quoted content => Text.quoted content
  | shown form => form

/-- A text is written as it is. -/
@[simp]
theorem Recorded.written_text (content : String) : (text content).written = content :=
  rfl

/-- A text in quotes is written between its marks. -/
@[simp]
theorem Recorded.written_quoted (content : String) :
    (quoted content).written = Text.quoted content :=
  rfl

/-- All else is written as it is shown. -/
@[simp]
theorem Recorded.written_shown (form : String) : (shown form).written = form :=
  rfl

/-- One report with all that is recorded of it. -/
structure Event where
  level : Level
  values : List (String × Recorded)
deriving DecidableEq, Repr

/-- The message and the fields among the values recorded so far. -/
structure Visit where
  message : String
  fields : List (String × String)
deriving DecidableEq, Repr

namespace Visit

/-- Nothing is recorded yet. -/
def start : Visit where
  message := ""
  fields := []

/-- The name of the value that is the message. -/
def messageName : String := "message"

/-- Record a value. A message takes the place of an earlier one. -/
def record (visit : Visit) (value : String × Recorded) : Visit :=
  if value.1 = messageName then
    { visit with message := value.2.written }
  else
    { visit with fields := visit.fields ++ [(value.1, value.2.written)] }

end Visit

/-- The entry of an event. -/
def Event.entry (event : Event) : Entry :=
  let visit := event.values.foldl Visit.record .start
  ⟨event.level, visit.message, visit.fields⟩

end Vigil.Log
