import DeviceWatch.Codec.Files
import DeviceWatch.Ports
import DeviceWatch.Registration
import DeviceWatch.Scenario.Replay
import DeviceWatch.Text.Blank
/-!
# The monitor

The monitor reports the devices that come and go. It registers one callback,
then either replays a scenario or scans the serial ports until it is
interrupted, and ends with a teardown. Its callback does nothing but report,
so its lines are read off the notices: a notice of a delivery is a line in
the report.
-/

namespace DeviceWatch

open Text

/-- The vendor of a device as written in reports. -/
def vendorText (d : Device) : String :=
  (UsbCodes.vendorName? d.vendor).getD "unknown vendor"

/-- The report on an event at a device. -/
def eventText (d : Device) : Event → String
  | .arrived =>
    "Device arrived: " ++ d.text ++ " (" ++ vendorText d ++ ", "
      ++ UsbCodes.className d.deviceClass ++ ")"
  | .left => "Device left: " ++ d.text ++ " (" ++ vendorText d ++ ")"

/-- The line for a notice, if it is worth one. -/
def Notice.line? : Notice → Option Line
  | .registered context callback filter events _ _ =>
    some { message :=
      "Registered hotplug callback " ++ callback.text ++ " on " ++ context.text ++ " (filter "
        ++ filter.text ++ ", events 0x" ++ hex events.bits.toNat ++ ")" }
  | .delivered _ _ device event => some { message := eventText device event }
  | .disconnected _ handle =>
    some { message :=
      "Handle " ++ decimal handle.id.val ++ " disconnected from " ++ handle.device.text }
  | .toreDown context callbacks =>
    some { message :=
      "Tore down " ++ decimal callbacks.length ++ " hotplug callback(s) on " ++ context.text }
  | .plugged device label =>
    some { message := "Plugged " ++ device.id.text ++ " " ++ device.text ++ " " ++ label }
  | .unplugged device =>
    some { message := "Unplugged " ++ device.id.text ++ " " ++ device.text }
  | .portAdded name product =>
    some { message := "Port " ++ name ++ " added (" ++ product.getD "Unknown" ++ ")" }
  | .portRemoved name => some { message := "Port " ++ name ++ " removed" }
  | .portVanished name device =>
    some {
      level := .warn
      message :=
        "Port " ++ name ++ " vanished from the bus: " ++ (BusError.unknownDevice device).text }
  | .replaying description => some { message := "Replaying scenario: " ++ description }
  | .remark line => some line
  | _ => none

/-- Which events the monitor waits for, in words. -/
def EventSet.words (s : EventSet) : String :=
  match s.arrived, s.left with
  | true, true => "arrivals and departures"
  | true, false => "arrivals"
  | false, true => "departures"
  | false, false => "nothing"

namespace Monitor

/-- The monitor's callback wants to hear of further events. -/
def host : Host Unit Unit where
  react _ := return .rearm
  order _ ids := ids
  order_perm _ _ := .refl _

/-- What the monitor is started with. -/
structure Input where
  files : FileView
  surroundings : Surroundings := {}
  /-- The path given for its settings. -/
  settingsPath : Option String := none
  /-- What the scans of the ports find; after the last of them the monitor is
  interrupted. -/
  listings : List Listing := []

/-- Why the monitor failed. -/
inductive Failure where
  /-- Its settings could not be loaded. -/
  | settings (e : LoadError)
  /-- Its callback could not be registered. -/
  | registration (e : RegisterError)
  /-- Its scenario could not be loaded. -/
  | scenario (e : LoadError)
  | replay (e : ReplayError)
  deriving DecidableEq

/-- The messages of a failure, outermost first. -/
def Failure.chain : Failure → List String
  | .settings e => e.chain .monitorSettings
  | .registration e => ["failed to register hotplug callback", e.text]
  | .scenario e => e.chain .scenario
  | .replay e => e.chain

/-- What the monitor did between its start and its end. -/
inductive Work where
  | replayed (report : ReplayReport)
  /-- It scanned the ports, and so many were attached in the end. -/
  | watched (attached : Nat)
  deriving DecidableEq

/-- The words for what the monitor did. -/
def Work.text : Work → String
  | .replayed report =>
    "Scenario finished: " ++ decimal report.steps ++ " step(s), "
      ++ decimal report.invoked ++ " callback(s), "
      ++ decimal report.disconnected ++ " handle(s) disconnected"
  | .watched attached => "Interrupted; " ++ decimal attached ++ " port(s) attached"

/-- What the monitor tells at its proper end. -/
structure Finish where
  work : Work
  /-- The number of records that the last teardown removed. -/
  released : Nat
  deriving DecidableEq

/-- Says something in the report. -/
def say (message : String) (level : Level := .info) : Act Unit Unit Unit :=
  Act.note (.remark { level, message })

/-- The settings in force, with the path they were loaded from, if they were. -/
def settings (input : Input) : Except LoadError (MonitorSettings × Option String) :=
  match input.settingsPath with
  | some path =>
    (input.files.load MonitorSettings.parse? path).map fun settings => (settings, some path)
  | none => input.files.loadUsual input.surroundings

/-- The request of the monitor. -/
def request (settings : MonitorSettings) : Request Unit :=
  (((Request.ofEvents settings.events).withFlags
    (if settings.enumerate then .existing else .none)).withFilter settings.filter).withProgram ()

/-- Scans the ports as often as there are listings. -/
def watch (b : BusId) : List Listing → Watcher → Act Unit Unit Watcher
  | [], w => return w
  | listing :: rest, w => do
    let (w, result) ← w.poll host b listing
    if let .error e := result then
      say ("Port scan failed: " ++ ": ".intercalate e.chain) .warn
    watch b rest w

/-- Replays a scenario, or scans the ports. -/
def work (input : Input) (settings : MonitorSettings) (b : BusId) :
    Act Unit Unit (Except Failure Work) := do
  match settings.scenario with
  | some path =>
    match input.files.load Scenario.parse? path with
    | .error e => return .error (.scenario e)
    | .ok scenario =>
      match ← Replay.run host b scenario with
      | .error e => return .error (.replay e)
      | .ok report => return .ok (.replayed report)
  | none =>
    let w ← watch b input.listings { skipPatterns := settings.skipPatterns }
    return .ok (.watched w.attached.length)

/-- Runs the monitor on a context with a bus. A context that is given up in a
failure is torn down like any other. -/
def runOn (input : Input) (settings : MonitorSettings) (c : ContextId) (b : BusId) :
    Act Unit Unit (Except Failure Finish) := do
  match ← Act.register host c (request settings) with
  | .error e => return .error (.registration e)
  | .ok id =>
    say ("Watching for " ++ settings.events.words ++ " with filter " ++ settings.filter.text)
    match ← work input settings b with
    | .error e =>
      let _ ← Act.teardown c
      return .error e
    | .ok work =>
      say work.text
      Act.deregister c id
      let released ← Act.teardown c
      say ("Stopped; released " ++ decimal released ++ " callback(s)")
      return .ok { work, released }

/-- Runs the monitor from its start. -/
def start (input : Input) : Act Unit Unit (Except Failure Finish) := do
  match settings input with
  | .error e => return .error (.settings e)
  | .ok (settings, path) =>
    if let some path := path then say ("Loaded configuration from " ++ path)
    say "Starting hotplug monitor"
    let c ← modifyGet fun w =>
      let (w, c) := w.addContext (.simulated true []) settings.context
      (c, w)
    let b ← modifyGet fun w =>
      let (w, b) := w.addBus c
      (b, w)
    runOn input settings c b

/-- What the monitor leaves behind. -/
structure Report where
  lines : List Line
  /-- The messages of the failure that ended it, outermost first; empty if it
  came to its proper end. -/
  failure : List String := []
  deriving DecidableEq

/-- The exit code of a run. -/
def Report.code (r : Report) : Nat :=
  if r.failure.isEmpty then 0 else 1

/-- The report of a run of the monitor. -/
def run (input : Input) : Report :=
  let effect := (start input).run { memory := () }
  { lines := effect.notices.filterMap Notice.line?
    failure :=
      match effect.result with
      | some (.error e) => e.chain.map trimmed
      | _ => [] }

end Monitor
end DeviceWatch
