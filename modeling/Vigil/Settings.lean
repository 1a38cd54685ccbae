import Vigil.Context
import Vigil.Expr.Name

/-!
# Settings

The configuration of a context: which log level is shown, how many expressions are kept, whether
the built-in functions are there, what events touch, and how changes of sensors are noticed.

Settings are *valid* where every word in them means something and nothing is said twice.
`Settings.validate` reports the first fault, and the tables of a context are built from settings
that passed it.
-/

namespace Vigil

/-- The functions that an event touches. -/
structure EventSetting where
  name : String
  touches : List String
deriving DecidableEq, Repr

/-- The word for the strategy of a sensor. -/
structure SensorSetting where
  name : String
  strategy : String
deriving DecidableEq, Repr

/-- The configuration of a context. -/
structure Settings where
  logLevel : String
  cacheCapacity : Nat
  builtins : Bool
  events : List EventSetting
  sensors : List SensorSetting
deriving DecidableEq, Repr

/-- What is wrong with settings. Events and sensors are counted from zero. -/
inductive SettingsFault where
  | unknownLevel (level : String)
  | blankEvent (index : Nat)
  | repeatedEvent (index : Nat) (name : String)
  | emptyTouches (index : Nat)
  | badTouch (index : Nat) (name : String)
  | badSensor (index : Nat) (name : String)
  | repeatedSensor (index : Nat) (name : String)
  | badStrategy (index : Nat) (word : String)
deriving DecidableEq, Repr

/-- Why settings cannot be used: they cannot be read, or they are not valid. -/
inductive SettingsError where
  | malformed
  | invalid (fault : SettingsFault)
deriving DecidableEq, Repr

namespace Settings

/-- The settings where nothing is configured. -/
def default : Settings where
  logLevel := "info"
  cacheCapacity := Context.defaultCapacity
  builtins := true
  events := []
  sensors := []

/-- The names of the log levels. -/
def levels : List String :=
  ["trace", "debug", "info", "warn", "error"]

end Settings

/-- The wording of a fault. -/
def SettingsFault.message : SettingsFault → String
  | unknownLevel level =>
    "logging.level must be one of " ++ Text.quotedList Settings.levels ++ ", got " ++
      Text.quoted level
  | blankEvent index => event index ++ ".name must not be empty"
  | repeatedEvent index name =>
    event index ++ ".name " ++ Text.quoted name ++ " is bound more than once"
  | emptyTouches index => event index ++ ".touches must not be empty"
  | badTouch index name =>
    event index ++ ".touches contains invalid function name " ++ Text.quoted name
  | badSensor index name =>
    sensor index ++ ".name is not a valid function name: " ++ Text.quoted name
  | repeatedSensor index name =>
    sensor index ++ ".name " ++ Text.quoted name ++ " is configured more than once"
  | badStrategy index word =>
    sensor index ++ ".strategy: " ++ Strategy.unknownWord word ++
      " (expected \"push\" or \"poll\")"
where
  event (index : Nat) : String := "events[" ++ toString index ++ "]"
  sensor (index : Nat) : String := "sensors[" ++ toString index ++ "]"

/-- The report of a fault. -/
def SettingsFault.report (fault : SettingsFault) : String :=
  "validation error: " ++ fault.message

namespace Settings

/-! ## Validation -/

/-- The words that stand for literals and operators. -/
def reservedWords : List String :=
  ["true", "false", "and", "or", "not"]

/--
Whether a name could be that of a function. Reserved words are ruled out first, in any case of
letters, and then the characters are looked at.
-/
def isFunctionName (name : String) : Bool :=
  if reservedWords.any fun word => Text.sameIgnoringCase name.toList word.toList then
    false
  else
    match name.toList with
    | [] => false
    | first :: rest =>
      (Name.isLetter first || first == '_') &&
        rest.all fun character =>
          Name.isLetter character || Decimal.isDigit character || character == '_' ||
            character == '.'

/-- The fault of an event among settings where the events of some names come before it. -/
def eventFault? (index : Nat) (before : List String) (event : EventSetting) :
    Option SettingsFault :=
  if Text.trim event.name = "" then
    some (.blankEvent index)
  else if event.name ∈ before then
    some (.repeatedEvent index event.name)
  else if event.touches = [] then
    some (.emptyTouches index)
  else
    (event.touches.find? fun name => !isFunctionName name).map (.badTouch index)

/-- The fault of a sensor among settings where the sensors of some names come before it. -/
def sensorFault? (index : Nat) (before : List String) (sensor : SensorSetting) :
    Option SettingsFault :=
  if !isFunctionName sensor.name then
    some (.badSensor index sensor.name)
  else if sensor.name ∈ before then
    some (.repeatedSensor index sensor.name)
  else if Strategy.ofWord? sensor.strategy = none then
    some (.badStrategy index sensor.strategy)
  else
    none

/-- The first fault of some items, each looked at with its index and the names before it. -/
def firstFault? {α : Type}
    (name : α → String)
    (fault? : Nat → List String → α → Option SettingsFault)
    (before : List String) : List α → Option SettingsFault
  | [] => none
  | item :: rest =>
    match fault? before.length before item with
    | some fault => some fault
    | none => firstFault? name fault? (before ++ [name item]) rest

/-- The first fault of settings: the level, then the events, then the sensors, each in order. -/
def fault? (settings : Settings) : Option SettingsFault :=
  if settings.logLevel ∉ levels then
    some (.unknownLevel settings.logLevel)
  else
    (firstFault? EventSetting.name eventFault? [] settings.events).or
      (firstFault? SensorSetting.name sensorFault? [] settings.sensors)

/-- Accept valid settings, or report their first fault. -/
def validate (settings : Settings) : Except SettingsFault Unit :=
  match settings.fault? with
  | none => .ok ()
  | some fault => .error fault

/-! ## Tables -/

/-- The event bindings that settings ask for. -/
def eventBindings (settings : Settings) : EventBindings :=
  settings.events.foldl (fun bindings event => EventBindings.bind bindings event.name event.touches)
    .empty

/-- The strategies that settings ask for. A word without meaning stands for the usual one. -/
def strategyTable (settings : Settings) : StrategyTable :=
  settings.sensors.foldl
    (fun table sensor => table.put sensor.name ((Strategy.ofWord? sensor.strategy).getD .push))
    .empty

end Settings

/-- A context as settings ask for it. -/
def Context.ofSettings
    {host : Host}
    (settings : Settings)
    (data : host.Data) : Except RegistryError (Context host) :=
  let context : Context host :=
    .new settings.cacheCapacity settings.eventBindings settings.strategyTable data
  let (outcome, context) :=
    if settings.builtins then context.registerBuiltins else (.ok (), context)
  match outcome with
  | .error error => .error error
  | .ok () =>
    .ok (context.log .debug "conditions context configured"
      [("events", toString settings.events.length),
        ("sensors", toString settings.sensors.length),
        ("builtins", if settings.builtins then "true" else "false")])

end Vigil
