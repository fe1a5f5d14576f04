import FactScope.Path
import FactScope.Value.Text
import FactScope.Version

namespace FactScope

inductive Level where
  | debug
  | info
  | warning
  | error
  | critical
deriving DecidableEq, Repr, Inhabited

namespace Level

def number : Level → Nat
  | debug => 10
  | info => 20
  | warning => 30
  | error => 40
  | critical => 50

def name : Level → String
  | debug => "DEBUG"
  | info => "INFO"
  | warning => "WARNING"
  | error => "ERROR"
  | critical => "CRITICAL"

def word : Level → String
  | debug => "debug"
  | info => "info"
  | warning => "warning"
  | error => "error"
  | critical => "critical"

def title : Level → String
  | debug => "Debug"
  | info => "Info"
  | warning => "Warning"
  | error => "Error"
  | critical => "Critical"

def all : List Level := [debug, info, warning, error, critical]

def ofName? (s : String) : Option Level :=
  all.find? (·.name == s)

theorem ofName?_name (level : Level) : ofName? level.name = some level := by
  cases level <;> decide

end Level

inductive Format where
  | json
  | console
deriving DecidableEq, Repr, Inhabited

namespace Format

def name : Format → String
  | json => "json"
  | console => "console"

def ofName? (s : String) : Option Format :=
  [json, console].find? (·.name == s)

theorem ofName?_name (format : Format) : ofName? format.name = some format := by
  cases format <;> decide

end Format

inductive Destination where
  | stderr
  | stdout
  | file (path : Path)
deriving DecidableEq, Repr, Inhabited

namespace Destination

def text : Destination → Text.Points
  | stderr => .ofString "stderr"
  | stdout => .ofString "stdout"
  | file path => path.text

def value (destination : Destination) : Value :=
  .ofPoints destination.text

/-- The destination with a file named by where its path leads. -/
def resolved : Destination → Destination
  | file path => file path.target
  | other => other

end Destination

/-- One output of the log; without a level of its own it takes the log's. -/
structure OutputSettings where
  format : Format
  destination : Destination
  level : Option Level
deriving DecidableEq, Repr

structure LoggingSettings where
  level : Level
  outputs : List OutputSettings
deriving DecidableEq, Repr

structure ContextSettings where
  version : Version
deriving DecidableEq, Repr

structure Settings where
  logging : LoggingSettings
  context : ContextSettings
deriving DecidableEq, Repr

def Settings.sectionNames : List String := ["logging", "context"]

def OutputSettings.default : OutputSettings := ⟨.console, .stderr, none⟩

def LoggingSettings.default : LoggingSettings := ⟨.info, [.default]⟩

def ContextSettings.default : ContextSettings := ⟨.initial⟩

def Settings.default : Settings := ⟨.default, .default⟩

inductive Section where
  | output
  | logging
  | context
  | settings
deriving DecidableEq, Repr

def Section.model : Section → String
  | output => "LogOutputConfig"
  | logging => "LoggingConfig"
  | context => "ContextConfig"
  | settings => "AnnoscopeConfig"

def levelValue : Option Level → Value
  | some level => .text level.name
  | none => .null

def OutputSettings.fields (output : OutputSettings) : Entries Value :=
  [("format", .text output.format.name), ("destination", output.destination.value),
    ("level", levelValue output.level)]

/-- The fields of the logging section, with each output wrapped by `wrap`. -/
def LoggingSettings.fields (logging : LoggingSettings) (wrap : Entries Value → Value) :
    Entries Value :=
  [("level", .text logging.level.name),
    ("outputs", .list (logging.outputs.map fun output => wrap output.fields))]

def ContextSettings.fields (context : ContextSettings) : Entries Value :=
  [("default_version", .text context.version.text)]

def Settings.dump (settings : Settings) : Value :=
  .object [("logging", .object (settings.logging.fields .object)),
    ("context", .object settings.context.fields)]

def LoggingSettings.record (logging : LoggingSettings) : Value :=
  .record Section.logging.model (logging.fields (.record Section.output.model))

def OutputSettings.record (output : OutputSettings) : Value :=
  .record Section.output.model output.fields

def ContextSettings.record (context : ContextSettings) : Value :=
  .record Section.context.model context.fields

def Settings.record (settings : Settings) : Value :=
  .record Section.settings.model
    [("logging", settings.logging.record), ("context", settings.context.record)]

end FactScope
