import DeviceWatch.Pass
/-!
# Buses

A bus attaches devices to a context and takes them off again, and tells the
context's callbacks of either. A device leaves the roster before the pass
over its departure begins, and is in the roster when the pass over its arrival
begins. A failed transfer on an open handle counts as the departure of the
handle's device, unless that device has left already.
-/

namespace DeviceWatch

variable {κ τ : Type}

/-- Why an act on a bus failed. -/
inductive BusError where
  | unknownDevice (id : DeviceId)
  deriving DecidableEq

/-- The text of a failed act on a bus. -/
def BusError.text : BusError → String
  | .unknownDevice id => "device " ++ id.text ++ " is not attached"

namespace Bus

/-- The number by which devices tell the bus they are on. -/
def number : UInt8 := 1

/-- The address given to the device with a number: addresses run from 1 to 127
and start anew after that. -/
def address (n : Nat) : UInt8 :=
  UInt8.ofNat (n % 127 + 1)

/-- The device with a number, made to a specification. -/
def device (n : Nat) (s : DeviceSpec) : Device :=
  ⟨⟨n⟩, number, address n, s.descriptor⟩

end Bus

namespace Act

/-- Attaches a device to a context's roster. -/
def attach (c : ContextId) (d : Device) : Act κ τ Unit := do
  modifyContext c fun x => { x with roster := x.roster.attach d }
  note (.attached c d)

/-- Takes the device with an identity off a context's roster. -/
def detach (c : ContextId) (id : DeviceId) : Act κ τ (Option Device) := do
  match (← context c).roster.detach? id with
  | none => return none
  | some (d, roster) =>
    modifyContext c fun x => { x with roster }
    note (.detached c d)
    return some d

/-- Opens a handle on a device. -/
def openHandle (c : ContextId) (device : Device) : Act κ τ OpenHandle := do
  let h : OpenHandle := ⟨⟨(← get).nextOpen⟩, device⟩
  modify fun w => { w with nextOpen := w.nextOpen + 1 }
  modifyContext c fun x => { x with opens := x.opens.push h }
  note (.opened c h)
  return h

/-- Closes a handle, and tells whether it was open in the context. -/
def closeHandle (c : ContextId) (h : OpenHandle) : Act κ τ Bool := do
  match (← context c).opens.close? h.id with
  | none => return false
  | some opens =>
    modifyContext c fun x => { x with opens }
    note (.closed c h.id)
    return true

/-- Plugs a new device into a bus. -/
def plug (host : Host κ τ) (b : BusId) (s : DeviceSpec) : Act κ τ (Device × Tally) := do
  let bus := (← get).bus b
  let d := Bus.device bus.nextDevice s
  modify fun w => { w with buses := w.buses.set b.val { bus with nextDevice := bus.nextDevice + 1 } }
  attach bus.context d
  note (.plugged d s.label)
  return (d, ← notify host bus.context d .arrived)

/-- Unplugs the device with an identity. -/
def unplug (host : Host κ τ) (b : BusId) (id : DeviceId) :
    Act κ τ (Except BusError (Device × Tally)) := do
  let c := (← get).contextOf b
  match ← detach c id with
  | none => return .error (.unknownDevice id)
  | some d =>
    note (.unplugged d)
    return .ok (d, ← notify host c d .left)

/-- Opens a handle on the device with an identity. -/
def openDevice (b : BusId) (id : DeviceId) : Act κ τ (Except BusError OpenHandle) := do
  let c := (← get).contextOf b
  match (← context c).roster.get? id with
  | none => return .error (.unknownDevice id)
  | some d => return .ok (← openHandle c d)

/-- Closes a handle on a bus, and tells whether it was open there. -/
def closeDevice (b : BusId) (h : OpenHandle) : Act κ τ Bool := do
  closeHandle ((← get).contextOf b) h

/-- Reports a failed transfer on a handle: the handle's device counts as gone. -/
def transferFailed (host : Host κ τ) (b : BusId) (h : OpenHandle) : Act κ τ Tally := do
  let c := (← get).contextOf b
  match ← detach c h.device.id with
  | none => return {}
  | some _ => notify host c h.device .left

end Act
end DeviceWatch
