import Vigil.CommandLine.Arguments
import Vigil.CommandLine.Files
import Vigil.Log.Collector
import Vigil.Settings.Reader
import Vigil.Settings.Writer
import Vigil.Simulation.Run
import Vigil.Simulation.Scenario.Reader
import Vigil.Toml.Reader
import Vigil.Value.Json

/-!
# Commands

What the program prints for each command. A command that fails prints nothing but its error, the
causes of the error below it, and ends with the status one.
-/

namespace Vigil.CommandLine

/-- An error with its causes, outermost first. -/
structure Failure where
  message : String
  causes : List String
deriving DecidableEq, Repr

/-- Why a command fails. What is wrong with a malformed file is not told. -/
inductive Fault where
  | malformed
  | failure (failure : Failure)
deriving DecidableEq, Repr

/-- An error without causes. -/
def Fault.plain (message : String) : Fault :=
  .failure ⟨message, []⟩

/-- The lines of the causes of an error, numbered where there are several. -/
def causeLines (numbered : Bool) : (index : Nat) → List String → String
  | _, [] => ""
  | index, cause :: rest =>
    let mark := if numbered then toString index ++ ": " else ""
    "    " ++ mark ++ cause ++ "\n" ++ causeLines numbered (index + 1) rest

/-- How an error is printed. -/
def Failure.print (failure : Failure) : String :=
  "Error: " ++ failure.message ++ "\n" ++
    if failure.causes.isEmpty then ""
    else "\nCaused by:\n" ++ causeLines (1 < failure.causes.length) 0 failure.causes

/-! ## Errors -/

/-- The error of an evaluation; where a sensor fails its own error is the cause. -/
def ofEvalError (error : EvalError) : Fault :=
  match error with
  | .sensor _ failure => .failure ⟨error.message, [failure.message]⟩
  | _ => .plain error.message

/-- The error of a text. -/
def ofConditionError : ConditionError → Fault
  | .invalid error => .plain error.message
  | .evaluation error => ofEvalError error

/-- The error of a set-up. -/
def ofSetupError (error : Simulation.SetupError) : Fault :=
  .plain error.message

/-! ## Configuration -/

/-- The settings found at a path, or the default ones where nothing is there. -/
def loadSettings (find : String → Found) (path : String) : Except Fault Settings :=
  let loading := "loading " ++ path
  let found := find path
  if !found.exists then
    .ok .default
  else
    match found with
    | .text content =>
      match (Toml.read content).map (Settings.load Toml.conventions) with
      | none => .error .malformed
      | some (.error .malformed) => .error .malformed
      | some (.error (.invalid fault)) => .error (.failure ⟨loading, [fault.report]⟩)
      | some (.ok settings) => .ok settings
    | found =>
      let problem := found.problem?.getD ""
      .error (.failure ⟨loading, ["failed to read config file: " ++ problem, problem]⟩)

/-! ## Commands -/

/-- A text with a line for each item. -/
def lines (items : List String) : String :=
  String.join (items.map (· ++ "\n"))

/-- Names between square brackets. -/
def bracketed (names : List String) : String :=
  "[" ++ String.intercalate ", " names ++ "]"

/-- A text filled up with blanks on the right. -/
def padRight (width : Nat) (text : String) : String :=
  text ++ String.ofList (List.replicate (width - text.length) ' ')

/-- A text filled up with blanks on the left. -/
def padLeft (width : Nat) (text : String) : String :=
  String.ofList (List.replicate (width - text.length) ' ') ++ text

/-- Evaluate an expression on a board with some flags and counters. -/
def eval
    (settings : Settings)
    (source : String)
    (flags : List String)
    (counters : List (String × Int))
    (json : Bool) : Except Fault String := do
  let state ← (Simulation.setUp settings).mapError ofSetupError
  let evaluation : Simulation.Action (Except ConditionError Value) := do
    Simulation.seed flags counters
    Context.evaluateText Simulation.runSensor source
  let value ← (evaluation.run state).1.mapError ofConditionError
  return lines [if json then value.json else value.display]

/-- The functions that a text is watched under. -/
def deps (source : String) : Except Fault String := do
  let names ← (Token.namesIn source).mapError fun error => Fault.plain error.message
  return lines names

/-- Check an expression against the functions of a board. -/
def check (settings : Settings) (source : String) : Except Fault String := do
  let state ← (Simulation.setUp settings).mapError ofSetupError
  let parsed ← (state.compile source).1.mapError ofConditionError
  return lines ["ok: watches " ++ bracketed parsed.expression.functionNames]

/-- The lines of the steps of a run, counted from `index` on. -/
def stepLines : (index : Nat) → List Simulation.StepOutcome → List String
  | _, [] => []
  | index, step :: rest =>
    (padLeft 3 (toString index) ++ ". " ++ padRight 32 step.description ++ " " ++
      bracketed step.flags) :: stepLines (index + 1) rest

/-- How many warnings and errors of a run are kept. -/
def diagnosticsCapacity : Nat := 1024

/-- The warnings and errors of a run. -/
def diagnostics (state : Simulation.State) : List String :=
  ((Log.Collector.new diagnosticsCapacity .warn).recordAll state.journal.toList).entries.map
    Log.Entry.display

/-- What is printed of a run. -/
def printReport (report : Simulation.Report) (diagnostics : List String) : String :=
  lines (("initial: " ++ bracketed report.initialFlags) :: stepLines 1 report.steps) ++
    (if 0 < report.disabledControllers then
      lines [toString report.disabledControllers ++ " controller(s) disabled"]
    else "") ++
    (if diagnostics.isEmpty then "" else lines ("diagnostics:" :: diagnostics.map ("  " ++ ·)))

/-- Run the scenario found at a path. -/
def simulate (find : String → Found) (settings : Settings) (path : String) :
    Except Fault String := do
  match find path with
  | .text content =>
    match (Toml.read content).bind (Simulation.readScenario Toml.conventions) with
    | none => .error .malformed
    | some scenario =>
      let (report, state) ← (Simulation.run scenario settings).mapError ofSetupError
      return printReport report (diagnostics state)
  | found => .error (.failure ⟨"reading " ++ path, [found.problem?.getD ""]⟩)

/-- Show the configuration, or say that it is valid. -/
def config (settings : Settings) (path : String) (showing : Bool) : Except Fault String :=
  return lines
    [if showing then settings.toToml else "Configuration at '" ++ path ++ "' is valid."]

/-- The paths that a command looks at. -/
def Invocation.paths (invocation : Invocation) : List String :=
  match invocation.command with
  | .simulate path => [invocation.configPath, path]
  | _ => [invocation.configPath]

/-- What a command prints, where `find` says what is found at a path. -/
def Invocation.run (invocation : Invocation) (find : String → Found) : Except Fault String := do
  let settings ← loadSettings find invocation.configPath
  match invocation.command with
  | .eval source flags counters json => eval settings source flags counters json
  | .deps source => deps source
  | .check source => check settings source
  | .simulate path => simulate find settings path
  | .config showing => config settings invocation.configPath showing

/-! ## Requests -/

/-- How the program ends: with what is printed, or refusing its arguments or a file. -/
inductive Ending where
  | printed (status : Nat) (output errors : String)
  | refused
  | malformed
deriving DecidableEq, Repr

/-- The name and the version of the program. -/
def versionText : String := "condwatch 0.1.0"

/-- How the program is used. -/
def usageText : String :=
  "Usage: condwatch [OPTIONS] <COMMAND>\n\nCommands: eval, deps, check, simulate, config"

/-- What the program does with its arguments. -/
def ending (arguments : List String) (find : String → Found) : Ending :=
  match Request.read arguments with
  | none => .refused
  | some .version => .printed 0 (lines [versionText]) ""
  | some .help => .printed 0 (lines [usageText]) ""
  | some (.run invocation) =>
    match invocation.run find with
    | .ok output => .printed 0 output ""
    | .error .malformed => .malformed
    | .error (.failure failure) => .printed 1 "" failure.print

end Vigil.CommandLine
