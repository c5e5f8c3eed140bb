import DeviceWatch.Codec.Device
import DeviceWatch.Json.Printer
import DeviceWatch.Json.Reader
import DeviceWatch.Settings
/-!
# Settings as JSON

A settings file lists what differs from the defaults.
-/

namespace DeviceWatch

open Json

/-- A context's settings as a value. -/
def ContextSettings.toJson (s : ContextSettings) : Json :=
  .record [("hotplug_enabled", .bool s.hotplugEnabled),
    ("max_callbacks", .ofOptional .ofWord64 s.maxCallbacks),
    ("slow_callback_warn_ms", .ofWord64 s.slowCallbackMillis)]

/-- The settings of a context that a value stands for. -/
def ContextSettings.ofJson? (v : Json) : Option ContextSettings := do
  let fields ← v.fields? 3
  let default : ContextSettings := {}
  return {
    hotplugEnabled := ← fields.optional? 0 "hotplug_enabled" asBool? default.hotplugEnabled
    maxCallbacks :=
      ← fields.optional? 1 "max_callbacks" (asOptional? asWord64?) default.maxCallbacks
    slowCallbackMillis :=
      ← fields.optional? 2 "slow_callback_warn_ms" asWord64? default.slowCallbackMillis }

/-- The settings of a context that a text stands for. -/
def ContextSettings.parse? (s : String) : Option ContextSettings :=
  Json.parse? s >>= ContextSettings.ofJson?

/-- The monitor's settings as a value. -/
def MonitorSettings.toJson (s : MonitorSettings) : Json :=
  .record [("hotplug", s.context.toJson), ("events", s.events.toJson),
    ("filter", s.filter.toJson), ("enumerate", .bool s.enumerate),
    ("poll_interval_ms", .ofWord64 s.pollIntervalMillis),
    ("skip_patterns", .array (s.skipPatterns.map .text)),
    ("scenario", .ofOptional .text s.scenario)]

/-- The settings of the monitor that a value stands for. -/
def MonitorSettings.ofJson? (v : Json) : Option MonitorSettings := do
  let fields ← v.fields? 7
  let default : MonitorSettings := {}
  return {
    context := ← fields.optional? 0 "hotplug" ContextSettings.ofJson? default.context
    events := ← fields.optional? 1 "events" EventSet.ofJson? default.events
    filter := ← fields.optional? 2 "filter" Filter.ofJson? default.filter
    enumerate := ← fields.optional? 3 "enumerate" asBool? default.enumerate
    pollIntervalMillis :=
      ← fields.optional? 4 "poll_interval_ms" asWord64? default.pollIntervalMillis
    skipPatterns := ← fields.optional? 5 "skip_patterns" (asList? asText?) default.skipPatterns
    scenario := ← fields.optional? 6 "scenario" (asOptional? asText?) default.scenario }

/-- The settings of the monitor that a text stands for. -/
def MonitorSettings.parse? (s : String) : Option MonitorSettings :=
  Json.parse? s >>= MonitorSettings.ofJson?

end DeviceWatch
