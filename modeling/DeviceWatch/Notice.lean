import DeviceWatch.Command
import DeviceWatch.OpenHandle
import DeviceWatch.Registry
import DeviceWatch.Tally
import DeviceWatch.Text.Steering
/-!
# Notices

Everything of note that happens in a system of contexts is written down, in
order. The monitor's report is read off the notices, and so is the history of
a registration: which events were delivered to it, and how it ended.
-/

namespace DeviceWatch

/-- How much a line of a report matters. -/
inductive Level where
  | info
  | warn
  deriving DecidableEq, Inhabited

/-- The word for a level. -/
def Level.text : Level → String
  | .info => "INFO"
  | .warn => "WARN"

/-- A line of a report. -/
structure Line where
  /-- How much it matters. -/
  level : Level := .info
  /-- What it tells. -/
  message : String
  deriving DecidableEq, Inhabited

/-- A line as it is printed: its message cannot steer a terminal. -/
def Line.text (l : Line) : String :=
  l.level.text ++ " " ++ Text.tamed l.message

/-- One thing of note. -/
inductive Notice where
  /-- A record was added to a context's registry. -/
  | inserted (context : ContextId) (callback : CallbackId)
  /-- A registration passed all checks, and is to be told of devices that are
  already there. -/
  | registered (context : ContextId) (callback : CallbackId) (filter : Filter) (events : EventSet)
    (flags : Flags) (existing : List Device)
  /-- A pass over a context's callbacks began. -/
  | passBegan (context : ContextId) (device : Device) (event : Event)
  /-- A callback was run with an event. -/
  | delivered (context : ContextId) (callback : CallbackId) (device : Device) (event : Event)
  /-- A live record became pending, if it was not before. -/
  | marked (context : ContextId) (callback : CallbackId)
  /-- It was decided about a record, or about an identity without one. -/
  | decided (context : ContextId) (callback : CallbackId) (decision : Decision)
  /-- The wish of a callback was committed after its run; `released` tells whether
  that removed the record. -/
  | committed (context : ContextId) (callback : CallbackId) (wish : Wish) (released : Bool)
  /-- The platform was told that a handle's device is gone. -/
  | disconnected (context : ContextId) (handle : OpenHandle)
  /-- A pass came to its end. -/
  | passEnded (context : ContextId) (device : Device) (event : Event) (tally : Tally)
  /-- All records of a context were removed, and there were some. -/
  | toreDown (context : ContextId) (callbacks : List CallbackId)
  /-- A device was put on a context's roster. -/
  | attached (context : ContextId) (device : Device)
  /-- A device was taken off a context's roster. -/
  | detached (context : ContextId) (device : Device)
  /-- A handle was opened. -/
  | opened (context : ContextId) (handle : OpenHandle)
  /-- An open handle was closed. -/
  | closed (context : ContextId) (handle : OpenId)
  /-- A command was queued. -/
  | queued (detector : DetectorId) (command : Command)
  /-- A command was taken off its queue, to be applied. -/
  | taken (detector : DetectorId) (command : Command)
  /-- A change of the bus was put into the mailboxes. -/
  | published (detector : DetectorId) (change : BusChange)
  /-- A device was plugged into a bus. -/
  | plugged (device : Device) (label : String)
  /-- A device was unplugged from a bus. -/
  | unplugged (device : Device)
  /-- A port was given a device. -/
  | portAdded (name : String) (product : Option String)
  /-- A port's device was taken off the bus. -/
  | portRemoved (name : String)
  /-- A port's device was no longer on the bus. -/
  | portVanished (name : String) (device : DeviceId)
  /-- The replay of a scenario with a description began. -/
  | replaying (description : String)
  /-- Whoever drives the system had something to say. -/
  | remark (line : Line)

end DeviceWatch
