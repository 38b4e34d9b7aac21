import RouteProbe.Log.Level
import RouteProbe.Text.Blank
import RouteProbe.Value

/-!
# Settings

What a probe is set to: its name and version, where it runs, how much it says, and
which collector it asks.  A host is never empty and has no blanks at its ends.
-/

namespace RouteProbe

open Text

/-- Where a probe runs. -/
inductive Environment where
  | development
  | ci
  deriving Repr, DecidableEq

namespace Environment

/-- The name of an environment. -/
def name : Environment → String
  | .development => "development"
  | .ci => "ci"

/-- All environments. -/
def all : List Environment := [.development, .ci]

/-- The environment of a name. -/
def ofName? (s : String) : Option Environment := all.find? fun e => e.name == s

@[simp] theorem ofName?_name (e : Environment) : ofName? e.name = some e := by cases e <;> rfl

end Environment

/-- What a probe is set to (`Settings`). -/
structure Settings where
  projectName : String
  version : String
  environment : Environment
  logLevel : Log.Level
  noisyModules : List String
  collectorHost : String
  deriving Repr, DecidableEq

namespace Settings

/-- What a probe is set to if nothing else is said. -/
def default : Settings where
  projectName := "collector-probe"
  version := "0.1.0"
  environment := .development
  logLevel := .info
  noisyModules := ["httpx", "httpcore", "asyncio"]
  collectorHost := "127.0.0.1"

/-- A single setting. -/
inductive Field where
  | projectName
  | version
  | environment
  | logLevel
  | noisyModules
  | collectorHost
  deriving Repr, DecidableEq

namespace Field

/-- All settings, in order. -/
def all : List Field :=
  [.projectName, .version, .environment, .logLevel, .noisyModules, .collectorHost]

/-- The name under which a setting is given. -/
def name : Field → String
  | .projectName => "PROJECT_NAME"
  | .version => "VERSION"
  | .environment => "ENVIRONMENT"
  | .logLevel => "LOG_LEVEL"
  | .noisyModules => "LOGGING_NOISY_MODULES"
  | .collectorHost => "COLLECTOR_HOST"

/-- The value of a setting. -/
def value (s : Settings) : Field → Value
  | .projectName => .text s.projectName
  | .version => .text s.version
  | .environment => .text s.environment.name
  | .logLevel => .text s.logLevel.name
  | .noisyModules => .list (s.noisyModules.map .text)
  | .collectorHost => .text s.collectorHost

end Field

/-- Settings as members, in order. -/
def members (s : Settings) : Members := Field.all.map fun f => (f.name, f.value s)

end Settings
end RouteProbe
