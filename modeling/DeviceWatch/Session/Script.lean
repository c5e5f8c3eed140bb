import DeviceWatch.Bus
import DeviceWatch.Ports
import DeviceWatch.Registration
import DeviceWatch.Scenario
/-!
# Scripts

A session drives contexts by a list of operations. The callbacks it registers
follow scripts: for each of their runs, the operations to perform and the
reply to give. Operations refer to registrations by name or by number, and to
open handles and devices by number.
-/

namespace DeviceWatch.Session

/-- How a run of a callback ends. -/
inductive Reply where
  | rearm
  | deregister
  | panic
  deriving DecidableEq, Inhabited

/-- What a callback does on its runs, operations being of type `ω`. -/
structure Script (ω : Type) where
  /-- The replies, in the order of the runs; the last holds for all runs after. -/
  replies : List Reply := []
  /-- The operations, in the order of the runs; there are none for runs after. -/
  actions : List (List ω) := []

/-- The reply of a run, counted from 0. -/
def Script.reply {ω : Type} (s : Script ω) (n : Nat) : Reply :=
  (s.replies[n]?.or s.replies.getLast?).getD .rearm

/-- The operations of a run, counted from 0. -/
def Script.action {ω : Type} (s : Script ω) (n : Nat) : List ω :=
  s.actions[n]?.getD []

/-- A reference to a registration. -/
inductive CallbackRef where
  | name (name : String)
  | number (n : Nat)

/-- A reference to a device. -/
inductive DeviceRef where
  | device (d : Device)
  | attached (n : Nat)

/-- The way in which the devices of a request are given. -/
inductive Via where
  | numbers
  | fields
  | filter
  | together
  deriving DecidableEq, Inhabited

/-- A request as it is written in a session. -/
structure Form where
  events : EventSet
  flags : Flags := .none
  via : Via := .numbers
  vendor : Option Int32 := none
  product : Option Int32 := none
  deviceClass : Option Int32 := none

/-- A number as the 16-bit word of its lowest bits. -/
def word16 (i : Int32) : UInt16 :=
  i.toUInt32.toUInt16

/-- A number as the byte of its lowest bits. -/
def byte (i : Int32) : UInt8 :=
  i.toUInt32.toUInt8

/-- The numbers of a form; a missing field is open. -/
def Form.selector (f : Form) : Selector where
  vendor := f.vendor.getD Selector.wildcard
  product := f.product.getD Selector.wildcard
  deviceClass := f.deviceClass.getD Selector.wildcard

/-- The request of a form, without a callback. -/
def Form.request {κ : Type} (f : Form) : Request κ :=
  let bare := (Request.ofEvents f.events).withFlags f.flags
  match f.via with
  | .numbers | .together => bare.withSelector f.selector
  | .filter =>
    bare.withFilter
      { vendor := f.vendor.map word16
        product := f.product.map word16
        deviceClass := f.deviceClass.map byte }
  | .fields =>
    let set {α : Type} (given : Option α) (change : Request κ → α → Request κ) (r : Request κ) :
        Request κ :=
      match given with
      | none => r
      | some a => change r a
    set (f.vendor.map word16) Request.withVendor
      (set (f.product.map word16) Request.withProduct
        (set (f.deviceClass.map byte) Request.withClass bare))

/-- What an operation does, the operations of callbacks being of type `ω`. -/
inductive Verb (ω : Type) where
  /-- Registers a callback under a name; without a script there is none. -/
  | register (name : String) (form : Form) (script : Option (Script ω))
  | deregister (callback : CallbackRef)
  | teardown
  | notify (device : DeviceRef) (event : Event)
  | hasHotplug
  /-- Switches the platform's ability to tell of devices. -/
  | setHotplug (on : Bool)
  | contextId
  | settings
  | describeContext
  /-- Adds a record whether or not callbacks may be registered. -/
  | insert (name : String) (events : EventSet) (selector : Selector) (script : Option (Script ω))
  /-- Decides about a record, and runs its callback if `call` is set. -/
  | decide (callback : CallbackRef) (device : DeviceRef) (event : Event) (call : Bool)
  | commit (callback : CallbackRef) (wish : Wish)
  | mark (callback : CallbackRef)
  | status (callback : CallbackRef)
  | registrySize
  /-- Puts a cursor over the live records into a slot. -/
  | cursor (slot : Nat)
  | cursorNext (slot : Nat)
  | cursorDrain (slot : Nat)
  | describeRegistry
  | attach (device : DeviceRef)
  | detach (id : DeviceId)
  | device (id : DeviceId)
  | devices
  | rosterSize
  | openHandle (device : DeviceRef)
  | closeHandle (handle : Nat)
  | handlesOn (id : DeviceId)
  | openSize
  /-- Asks for a handle's device and whether it is gone. -/
  | handleInfo (handle : Nat)
  /-- Lists the handles that the platform gave up. -/
  | disconnects
  /-- Counts how often the platform gave up a handle. -/
  | disconnectCount (handle : Nat)
  /-- Tells the platform to give up a handle. -/
  | giveUp (handle : Nat)
  /-- Plugs a number of devices alike into the bus. -/
  | plug (spec : DeviceSpec) (count : Nat)
  | unplug (id : DeviceId)
  /-- Opens a handle on a device of the bus. -/
  | openDevice (id : DeviceId)
  | closeDevice (handle : Nat)
  | transferFailed (handle : Nat)
  | startDetector
  | detect (commands : List Command)
  | stopDetector
  | retireDetector
  /-- Opens a mailbox at the detector, and puts it into a slot. -/
  | subscribe (slot : Nat)
  /-- Takes all there is out of a mailbox. -/
  | receive (slot : Nat)
  | watcher (slot : Nat) (skip : List String)
  /-- Shows a listing to a watcher, which brings the bus in line. -/
  | poll (slot : Nat) (listing : Listing)
  /-- Shows a listing to a watcher, which chooses from it. -/
  | ports (slot : Nat) (listing : Listing)
  /-- Replays the scenario that a text stands for. -/
  | scenario (text : String)
  /-- Takes the steps of a scenario, going on after those that fail. -/
  | replay (steps : List Step)

/-- An operation on a context, given by its place among the session's contexts. -/
inductive Operation where
  | on (context : Option Nat) (verb : Verb Operation)

instance {ω : Type} : Inhabited (Verb ω) := ⟨.registrySize⟩

instance : Inhabited Operation := ⟨.on none default⟩

/-- The place of the context an operation names. -/
def Operation.context : Operation → Option Nat
  | .on context _ => context

/-- What an operation does. -/
def Operation.verb : Operation → Verb Operation
  | .on _ verb => verb

/-! ## The number of operations -/

mutual

/-- The number of operations in an operation, itself included. -/
def Operation.count : Operation → Nat
  | .on _ verb => verbCount verb + 1

/-- The number of operations in a verb. -/
def verbCount : Verb Operation → Nat
  | .register _ _ script => optionCount script
  | .insert _ _ _ script => optionCount script
  | _ => 0

/-- The number of operations in a script, if there is one. -/
def optionCount : Option (Script Operation) → Nat
  | none => 0
  | some script => scriptCount script

/-- The number of operations in a script. -/
def scriptCount : Script Operation → Nat
  | ⟨_, actions⟩ => runsCount actions

/-- The number of operations in lists of operations. -/
def runsCount : List (List Operation) → Nat
  | [] => 0
  | action :: rest => listCount action + runsCount rest

/-- The number of operations in a list. -/
def listCount : List Operation → Nat
  | [] => 0
  | op :: rest => op.count + listCount rest

end

end DeviceWatch.Session
