import Vigil.Number.Scientific
import Vigil.Number.Word
import Vigil.Text.Blank

/-!
# Arguments of the command line

Options of the program itself stand before the command, options of the command after it, in any
order with its operands. An option that takes a value takes it from behind a sign of equality or
from the next argument, unless that one looks like an option. After `--` every argument is an
operand. Arguments that do not fit are refused as a whole, and so they are where one of them does
not fit and only a later one asks for help.
-/

namespace Vigil.CommandLine

/-- What the program is asked to do. -/
inductive Command where
  | eval (source : String) (flags : List String) (counters : List (String × Int)) (json : Bool)
  | deps (source : String)
  | check (source : String)
  | simulate (path : String)
  | config (showing : Bool)
deriving DecidableEq, Repr

/-- A command, and where the configuration is to be found. -/
structure Invocation where
  configPath : String
  command : Command
deriving DecidableEq, Repr

/-- What the arguments ask for. -/
inductive Request where
  | run (invocation : Invocation)
  | version
  | help
deriving DecidableEq, Repr

/-- Where the configuration is looked for unless another place is given. -/
def defaultConfigPath : String := "condwatch.toml"

/-! ## Splitting -/

/-- What an argument looks like. -/
inductive Shape where
  | escape
  | long (name : String) (value? : Option String)
  | short (letters : List Char)
  | plain (text : String)

/-- A text up to the first sign of equality, and what stands after it. -/
def splitEquals (text : List Char) : List Char × Option (List Char) :=
  let before := text.takeWhile (· ≠ '=')
  match text.dropWhile (· ≠ '=') with
  | [] => (before, none)
  | _ :: after => (before, some after)

/-- The look of an argument. -/
def shape (argument : String) : Shape :=
  match argument.toList with
  | ['-', '-'] => .escape
  | '-' :: '-' :: rest =>
    let (name, value?) := splitEquals rest
    .long (String.ofList name) (value?.map String.ofList)
  | '-' :: letter :: rest => .short (letter :: rest)
  | _ => .plain argument

/-- The value of an option from the argument after it. -/
def nextValue : List String → Option (String × List String)
  | [] => none
  | argument :: rest =>
    match shape argument with
    | .plain text => some (text, rest)
    | _ => none

/-- The value of an option: from behind a sign of equality, or from the next argument. -/
def optionValue (value? : Option String) (rest : List String) : Option (String × List String) :=
  match value? with
  | some value => some (value, rest)
  | none => nextValue rest

/-- A path must not be empty. -/
def asPath (text : String) : Option String :=
  if text = "" then none else some text

/-- An integer of 64 bits with a sign. -/
def asInteger (text : List Char) : Option Int :=
  (Decimal.readInt? text).bind Word.signed?

/-- A counter and its value, on the two sides of a sign of equality, with blanks around them. -/
def asCounter (text : String) : Option (String × Int) := do
  let (name, value?) := splitEquals text.toList
  let value ← asInteger (Text.trimEnd (Text.trimStart (← value?)))
  return (Text.trim (String.ofList name), value)

/-! ## Commands -/

/-- What has been read of a command. -/
structure Parts where
  operand? : Option String
  flags : List String
  counters : List (String × Int)
  /-- The switches that were given. -/
  switches : List String

/-- What a command works on, if on anything. -/
inductive OperandKind where
  | nothing
  | text
  | path
deriving DecidableEq, Repr

/-- What a command takes: its operand, options that have a value, and switches. -/
structure Options where
  operand : OperandKind
  valued : List String
  switches : List String

/-- Nothing is given as the arguments of a command begin. -/
def Parts.empty : Parts where
  operand? := none
  flags := []
  counters := []
  switches := []

/-- Take an operand, which is at most one. -/
def Parts.takeOperand (kind : OperandKind) (parts : Parts) (text : String) : Option Parts :=
  if parts.operand?.isSome then none
  else
    match kind with
    | .nothing => none
    | .text => some { parts with operand? := some text }
    | .path => (asPath text).map fun path => { parts with operand? := some path }

/-- Take a switch, which may be given once. -/
def Parts.takeSwitch (parts : Parts) (name : String) : Option Parts :=
  if name ∈ parts.switches then none
  else some { parts with switches := parts.switches ++ [name] }

/-- Take an option and its value. -/
def Parts.takeValue (parts : Parts) (name value : String) : Option Parts := do
  if name = "flag" then
    return { parts with flags := parts.flags ++ [value] }
  else
    return { parts with counters := parts.counters ++ [← asCounter value] }

/-- Read the arguments of a command, at most `fuel` of them. Asking for help answers nothing. -/
def readParts (options : Options) : (fuel : Nat) → Parts → List String → Option (Option Parts)
  | 0, _, _ => none
  | _ + 1, parts, [] => some (some parts)
  | fuel + 1, parts, argument :: rest =>
    match shape argument with
    | .escape => (rest.foldlM (Parts.takeOperand options.operand) parts).map some
    | .plain text => do
      readParts options fuel (← parts.takeOperand options.operand text) rest
    | .short letters => if letters.head? = some 'h' then some none else none
    | .long name value? =>
      if name ∈ options.valued then do
        let (value, rest) ← optionValue value? rest
        readParts options fuel (← parts.takeValue name value) rest
      else if value?.isSome then none
      else if name ∈ options.switches then do
        readParts options fuel (← parts.takeSwitch name) rest
      else if name = "help" then some none
      else none

/-- The options of the command of a name. -/
def optionsOf (name : String) : Options :=
  if name = "eval" then ⟨.text, ["flag", "counter"], ["json"]⟩
  else if name = "config" then ⟨.nothing, [], ["show"]⟩
  else if name = "simulate" then ⟨.path, [], []⟩
  else ⟨.text, [], []⟩

/-- The command of a name with what has been read of it. -/
def commandOf (name : String) (parts : Parts) : Option Command :=
  match name, parts.operand? with
  | "eval", some source =>
    some (.eval source parts.flags parts.counters (parts.switches.contains "json"))
  | "deps", some source => some (.deps source)
  | "check", some source => some (.check source)
  | "simulate", some path => some (.simulate path)
  | "config", none => some (.config (parts.switches.contains "show"))
  | _, _ => none

/-- The names of the commands. -/
def commandNames : List String :=
  ["eval", "deps", "check", "simulate", "config"]

/-- Read a command and its arguments. -/
def readCommand (configPath? : Option String) (name : String) (rest : List String) :
    Option Request :=
  if name = "help" then
    match rest with
    | [] => some .help
    | [topic] => if topic ∈ "help" :: commandNames then some .help else none
    | _ => none
  else if name ∈ commandNames then do
    match ← readParts (optionsOf name) (rest.length + 1) .empty rest with
    | none => return .help
    | some parts =>
      return .run ⟨configPath?.getD defaultConfigPath, ← commandOf name parts⟩
  else
    none

/-! ## Options of the program -/

/-- What a row of letters after a single dash asks for. -/
inductive Letters where
  | verbose
  | config (value? : Option String)
  | help
  | version

/-- Read a row of letters. The letter `c` takes what follows it as its value. -/
def readLetters : List Char → Option Letters
  | [] => some .verbose
  | 'v' :: rest => readLetters rest
  | 'h' :: _ => some .help
  | 'V' :: _ => some .version
  | ['c'] => some (.config none)
  | 'c' :: '=' :: value => some (.config (some (String.ofList value)))
  | 'c' :: value => some (.config (some (String.ofList value)))
  | _ => none

/-- Take the place of the configuration, which may be given once. -/
def takeConfig
    (configPath? value? : Option String)
    (rest : List String) : Option (Option String × List String) := do
  let (value, rest) ← optionValue value? rest
  guard configPath?.isNone
  return (some (← asPath value), rest)

/-- Read all arguments, at most `fuel` of them. -/
def readArguments : (fuel : Nat) → Option String → List String → Option Request
  | 0, _, _ => none
  | _ + 1, _, [] => none
  | fuel + 1, configPath?, argument :: rest =>
    match shape argument with
    | .escape => none
    | .plain name => readCommand configPath? name rest
    | .short letters => do
      match ← readLetters letters with
      | .verbose => readArguments fuel configPath? rest
      | .help => return .help
      | .version => return .version
      | .config value? =>
        let (configPath?, rest) ← takeConfig configPath? value? rest
        readArguments fuel configPath? rest
    | .long name value? =>
      if name = "config" then do
        let (configPath?, rest) ← takeConfig configPath? value? rest
        readArguments fuel configPath? rest
      else if value?.isSome then none
      else if name = "verbose" then readArguments fuel configPath? rest
      else if name = "help" then some .help
      else if name = "version" then some .version
      else none

/-- What the arguments of the program ask for, if they are well formed. -/
def Request.read (arguments : List String) : Option Request :=
  readArguments (arguments.length + 1) none arguments

end Vigil.CommandLine
