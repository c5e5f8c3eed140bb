import DeviceWatch.Command
import DeviceWatch.Tally
/-!
# Detectors

A detector applies commands to a bus in the order in which they were queued,
one at a time, until it is told to stop or a callback panics under it. It
reports each change of the bus to its mailboxes. A mailbox holds the latest
reports only; it counts those that it had to drop.

This file has the data; the acts on it are in `DeviceWatch.Detection`.
-/

namespace DeviceWatch

/-- The latest changes that were not read yet. -/
structure Mailbox where
  pending : List BusChange := []
  /-- The number of older changes that were dropped. -/
  lost : Nat := 0
  deriving DecidableEq, Inhabited

namespace Mailbox

/-- The number of changes that a mailbox can hold. -/
def capacity : Nat := 64

/-- The mailbox with one more change; if it is full the oldest is dropped. -/
def push (m : Mailbox) (change : BusChange) : Mailbox :=
  if m.pending.length < capacity then
    { m with pending := m.pending ++ [change] }
  else
    { pending := m.pending.drop 1 ++ [change], lost := m.lost + 1 }

end Mailbox

/-- A queue of commands for a bus, and those who follow its changes. -/
structure Detector where
  bus : BusId
  running : Bool := true
  /-- The commands that were not applied yet, oldest first. -/
  queue : List Command := []
  /-- The number of calls to answer made so far. -/
  syncs : Nat := 0
  /-- The calls to answer that were answered. -/
  answered : List Nat := []
  mailboxes : List Mailbox := []
  /-- Whether the detector was given up by its owner. -/
  retired : Bool := false
  deriving DecidableEq, Inhabited

/-- A detector that does not run takes no commands and gives no answers. -/
inductive DetectorError where
  | stopped
  deriving DecidableEq

/-- The text of a refused command. -/
def DetectorError.text : DetectorError → String
  | .stopped => "detection thread has shut down"

namespace Detector

/-- The detector with one more command, unless it has stopped. -/
def send? (d : Detector) (command : Command) : Option Detector :=
  if d.running then some { d with queue := d.queue ++ [command] } else none

/-- The detector after it stopped: what is still queued is dropped. -/
def stop (d : Detector) : Detector :=
  { d with running := false, queue := [] }

/-- The detector with a change put into every mailbox. -/
def publish (d : Detector) (change : BusChange) : Detector :=
  { d with mailboxes := d.mailboxes.map (·.push change) }

/-- The detector with one more mailbox, empty. -/
def subscribe (d : Detector) : Detector :=
  { d with mailboxes := d.mailboxes ++ [{}] }

/-- What is in a mailbox. -/
def mailbox (d : Detector) (i : Nat) : Mailbox :=
  d.mailboxes[i]?.getD {}

/-- The detector with a mailbox emptied. -/
def emptied (d : Detector) (i : Nat) : Detector :=
  { d with mailboxes := d.mailboxes.set i {} }

end Detector
end DeviceWatch
