import DeviceWatch.Session.Script
import DeviceWatch.Scenario.Replay
/-!
# Answers

What operations of a session answer, and the log of the callbacks that ran
meanwhile. An entry of a log tells of one run and of the operations that the
run performed, each with its answer and its own log.

The order in which a pass visits records is not fixed, so logs are put into an
order that does not depend on it: neighbouring entries about the same event at
the same device stand in the order of their names.
-/

namespace DeviceWatch.Session

/-- What a single step of a replay answers, with the state it leaves. -/
structure StepAnswer where
  error : Option StepError
  devices : List DeviceId
  opens : Nat
  /-- The number of handles given up by the platform. -/
  disconnects : Nat

/-- What an operation answers. -/
inductive Answer where
  | nothing
  /-- A reference led to nothing, and nothing was done. -/
  | noReference
  | panicked
  | done
  | registered (id : CallbackId)
  | refused (e : RegisterError)
  | busError (e : BusError)
  | text (s : String)
  | flag (b : Bool)
  | number (n : Nat)
  | size (n : Nat)
  | tally (t : Tally)
  /-- Whether the platform tells of devices, and whether the context offers that. -/
  | support (platform context : Bool)
  | decided (d : Decision)
  /-- It was decided to run a callback, and the callback was run. -/
  | called (wish : Wish)
  /-- Where a record stands, if it is live. -/
  | status (s : Option Status)
  | remaining (n : Nat)
  /-- Whether a cursor passed a record, and the number of those before it. -/
  | advanced (found : Bool) (remaining : Nat)
  | callbacks (ids : List CallbackId)
  | device (d : Option Device)
  | devices (ds : List Device)
  | handles (hs : List (OpenId × Bool))
  /-- A handle's device, and whether it is gone. -/
  | handle (d : Device) (disconnected : Bool)
  /-- The handles given up, if the platform keeps a record of them. -/
  | disconnects (ds : Option (List Disconnect))
  /-- A device that came or went, and what the pass over that did. -/
  | change (d : Device) (t : Tally)
  | results (rs : List (Except DetectorError Unit))
  /-- What was in a mailbox, and whether more may come. -/
  | received (m : Mailbox) (more : Bool)
  /-- What a listing changed, and the number of ports attached now. -/
  | polled (c : PortChanges) (attached : Nat)
  | ports (ps : List SerialPort)
  | replayed (r : ReplayReport)
  | steps (ss : List StepAnswer)
  | failed (chain : List String)

/-- One run of a callback. -/
inductive Entry where
  | ran (name : String) (device : Device) (event : Event) (count : Nat)
      (performed : List (Answer × List Entry))

namespace Entry

/-- The name the callback was registered under. -/
def name : Entry → String
  | ran name .. => name

/-- The device of the event. -/
def device : Entry → Device
  | ran _ device .. => device

/-- The event. -/
def event : Entry → Event
  | ran _ _ event .. => event

/-- Whether two entries are about the same event at the same device. -/
def sameEvent (x y : Entry) : Bool :=
  x.device == y.device && x.event == y.event

/-- Whether an entry may stand before another about the same event. -/
def nameLe (x y : Entry) : Bool :=
  x.name ≤ y.name

/-- Whether an entry may stand before another in a run of departures: the
lesser device comes first. -/
def departureLe (x y : Entry) : Bool :=
  x.device.id.val < y.device.id.val || (x.device.id == y.device.id && x.nameLe y)

end Entry

/-- A log in an order that does not depend on the order of visits. -/
def sortLog (log : List Entry) : List Entry :=
  (log.splitBy Entry.sameEvent).flatMap fun run => run.mergeSort Entry.nameLe

/-- The log of an operation whose departures come first and in no fixed order. -/
def sortDepartures (log : List Entry) : List Entry :=
  let isLeft (x : Entry) : Bool := x.event == .left
  sortLog ((log.takeWhile isLeft).mergeSort Entry.departureLe ++ log.dropWhile isLeft)

end DeviceWatch.Session
