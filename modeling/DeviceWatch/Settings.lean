import DeviceWatch.Filter
/-!
# Settings

What may be set for a context and for the monitor, and the values in force
where nothing is set.
-/

namespace DeviceWatch

/-- The settings of a context. -/
structure ContextSettings where
  /-- Whether callbacks may be registered at all. -/
  hotplugEnabled : Bool := true
  /-- The greatest number of live records, if there is one. -/
  maxCallbacks : Option UInt64 := none
  /-- The time in milliseconds after which a callback counts as slow. -/
  slowCallbackMillis : UInt64 := 100
  deriving DecidableEq, Inhabited

/-- The settings of the monitor. -/
structure MonitorSettings where
  context : ContextSettings := {}
  events : EventSet := .all
  filter : Filter := .any
  /-- Whether it reports the devices that are there when it starts. -/
  enumerate : Bool := true
  /-- The time in milliseconds between two scans of the ports. -/
  pollIntervalMillis : UInt64 := 1000
  /-- Ports whose name contains one of these are left out. -/
  skipPatterns : List String := ["Bluetooth", "debug"]
  /-- The path of a scenario to replay in place of scanning ports. -/
  scenario : Option String := none
  deriving DecidableEq, Inhabited

end DeviceWatch
