import DeviceWatch.Codec.Scenario
import DeviceWatch.Codec.Settings
import DeviceWatch.Files
/-!
# Loading settings and scenarios

Values are loaded from files. Where the platform or the JSON reader would
word a failure, a fixed placeholder stands in the chain of messages.
-/

namespace DeviceWatch

/-- What stands for the platform's words on a file that cannot be read. -/
def unreadableText : String := "<io error>"

/-- What stands for the reader's words on a text that it refuses. -/
def malformedText : String := "<json error>"

/-- Why a value could not be loaded. -/
inductive LoadError where
  /-- The file cannot be read as text. -/
  | unreadable (path : String)
  /-- The text does not stand for a value of the kind. -/
  | malformed (path : String)
  deriving DecidableEq

/-- The kinds of value that are loaded. -/
inductive DocumentKind where
  | contextSettings
  | monitorSettings
  | scenario
  deriving DecidableEq

/-- The messages of a text that does not stand for a value, outermost first. -/
def DocumentKind.parseChain : DocumentKind → List String
  | .contextSettings => [malformedText]
  | .monitorSettings => ["invalid monitor configuration", malformedText]
  | .scenario => ["invalid scenario", malformedText]

/-- The messages of a failed load, outermost first. -/
def LoadError.chain (kind : DocumentKind) : LoadError → List String
  | .unreadable path =>
    let what := if kind = .scenario then "failed to read scenario " else "failed to read "
    [what ++ path, unreadableText]
  | .malformed path => ("failed to parse " ++ path) :: kind.parseChain

/-- The value of the file at a path, read from its text. -/
def FileView.load {α : Type} (files : FileView) (read : String → Option α) (path : String) :
    Except LoadError α :=
  match files.readText? path with
  | none => .error (.unreadable path)
  | some text =>
    match read text with
    | none => .error (.malformed path)
    | some value => .ok value

/-- What a process is told by its surroundings. -/
structure Surroundings where
  home : Option String := none
  /-- The directory for configurations, if the user chose one. -/
  configHome : Option String := none

namespace Surroundings

/-- The directory of the monitor's configuration: the chosen directory counts
only if its path is absolute. -/
def configDirectory? (s : Surroundings) : Option String :=
  match s.configHome.filter (·.startsWith "/") with
  | some chosen => some (joinPath chosen "hotplug-monitor")
  | none => s.home.map fun home => joinPath (joinPath home ".config") "hotplug-monitor"

/-- The path of the monitor's configuration. -/
def settingsPath? (s : Surroundings) : Option String :=
  s.configDirectory?.map (joinPath · "monitor.json")

end Surroundings

/-- The monitor's settings from their usual place, with the path if there is a
file; the defaults if there is none. -/
def FileView.loadUsual (files : FileView) (s : Surroundings) :
    Except LoadError (MonitorSettings × Option String) :=
  match s.settingsPath?.filter files.contains with
  | none => .ok ({}, none)
  | some path => (files.load MonitorSettings.parse? path).map fun settings => (settings, some path)

end DeviceWatch
