import DeviceWatch.Pass
/-!
# Registration

A request names events, devices and a callback. It is checked in a fixed
order: the context must offer registrations at all, the devices must be given
by numbers that fit, there must be a callback, and there must be room. Only
then is a record made. If the request asks for the devices that are already
there, they are delivered to the new record, and to no other, before the
registration returns.
-/

namespace DeviceWatch

variable {κ τ : Type}

/-- Why a registration failed. -/
inductive RegisterError where
  /-- The context does not offer registrations. -/
  | unsupported
  /-- A number does not fit its field. -/
  | misfit (m : Selector.Misfit)
  | missingCallback
  /-- There is no room for another record. -/
  | full
  deriving DecidableEq

/-- The text of a failed registration. -/
def RegisterError.text : RegisterError → String
  | .unsupported => "hotplug is not supported on this platform"
  | .misfit m => "invalid parameter: " ++ m.text
  | .missingCallback => "invalid parameter: missing callback"
  | .full => "out of memory allocating callback record"

/-- A wish to be told of events. -/
structure Request (κ : Type) where
  events : EventSet
  /-- What is asked for beyond them. -/
  flags : Flags := .none
  /-- The devices, as numbers that are still to be checked. -/
  selector : Selector := .any
  /-- The callback, once there is one. -/
  program : Option κ := none

namespace Request

/-- A request for events at any device, still without a callback. -/
def ofEvents (events : EventSet) : Request κ :=
  { events }

/-- The request with flags. -/
def withFlags (r : Request κ) (flags : Flags) : Request κ :=
  { r with flags }

/-- The request for devices given by numbers. -/
def withSelector (r : Request κ) (selector : Selector) : Request κ :=
  { r with selector }

/-- The request for the devices that a filter accepts. -/
def withFilter (r : Request κ) (f : Filter) : Request κ :=
  { r with selector := .ofFilter f }

/-- The request for devices of a vendor. -/
def withVendor (r : Request κ) (vendor : UInt16) : Request κ :=
  { r with selector := { r.selector with vendor := Int32.ofNat vendor.toNat } }

/-- The request for devices of a product. -/
def withProduct (r : Request κ) (product : UInt16) : Request κ :=
  { r with selector := { r.selector with product := Int32.ofNat product.toNat } }

/-- The request for devices of a class. -/
def withClass (r : Request κ) (deviceClass : UInt8) : Request κ :=
  { r with selector := { r.selector with deviceClass := Int32.ofNat deviceClass.toNat } }

/-- The request with a callback. -/
def withProgram (r : Request κ) (program : κ) : Request κ :=
  { r with program := some program }

/-- The filter and the callback of a request, or what is wrong with it. -/
def check (r : Request κ) : Except RegisterError (Filter × κ) :=
  match r.selector.check with
  | .error m => .error (.misfit m)
  | .ok filter =>
    match r.program with
    | none => .error .missingCallback
    | some program => .ok (filter, program)

end Request

namespace Act

/-- Adds a record to a context's registry, if there is room. -/
def insert (c : ContextId) (events : EventSet) (filter : Filter) (program : κ) :
    Act κ τ (Except RegisterError CallbackId) := do
  if (← context c).registry.isFull then
    return .error .full
  let id : CallbackId := ⟨(← get).nextCallback⟩
  modify fun w => { w with nextCallback := w.nextCallback + 1 }
  modifyContext c fun x =>
    { x with
      registry := x.registry.insert
        { id, owner := c, events, filter, program, status := .active } }
  note (.inserted c id)
  return .ok id

/-- Delivers arrivals of devices to one record until the record is no longer
to be reached; answers with the visits made. -/
def enumerate (host : Host κ τ) (c : ContextId) (id : CallbackId) :
    List Device → Act κ τ (List (Device × Visit))
  | [] => return []
  | d :: rest => do
    match ← visit host c d .arrived id with
    | .skipped => return (d, .skipped) :: (← enumerate host c id rest)
    | .invoked false => return (d, .invoked false) :: (← enumerate host c id rest)
    | last => return [(d, last)]

/-- Registers a callback. -/
def register (host : Host κ τ) (c : ContextId) (request : Request κ) :
    Act κ τ (Except RegisterError CallbackId) := do
  if !(← context c).hasHotplug then
    return .error .unsupported
  match request.check with
  | .error e => return .error e
  | .ok (filter, program) =>
    match ← insert c request.events filter program with
    | .error e => return .error e
    | .ok id =>
      let roster := (← context c).roster
      let existing := if request.flags.enumerate then roster.toList else []
      note (.registered c id filter request.events request.flags existing)
      let _ ← enumerate host c id existing
      return .ok id

/-- Deregisters a callback: its record becomes pending. Without effect if the
context does not offer registrations or has no such record. -/
def deregister (c : ContextId) (id : CallbackId) : Act κ τ Unit := do
  if (← context c).hasHotplug then
    let _ ← markPending c id

/-- Removes all records of a context without running any callback, and counts
them. -/
def teardown (c : ContextId) : Act κ τ Nat := do
  let registry := (← context c).registry
  modifyContext c fun x => { x with registry := x.registry.clear }
  if registry.size > 0 then note (.toreDown c registry.ids)
  return registry.size

end Act
end DeviceWatch
