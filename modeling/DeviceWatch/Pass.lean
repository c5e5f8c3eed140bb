import DeviceWatch.Act
/-!
# Passes

A pass tells the callbacks of a context of an event at a device. It visits
the records that were live when it began; each visit decides, runs the
callback outside the registry, and commits. After the callbacks a departure
disconnects the handles that are still open on the device, each at most once
ever, whether or not any callback listened.
-/

namespace DeviceWatch

variable {κ τ : Type}

/-- What became of a visit to a record. -/
inductive Visit where
  /-- There was no such record any more. -/
  | gone
  /-- The record was pending and was removed. -/
  | released
  /-- The record does not listen for this. -/
  | skipped
  /-- The callback ran; `went` tells whether the record was removed afterwards. -/
  | invoked (went : Bool)
  deriving DecidableEq, Inhabited

namespace Visit

/-- Whether the callback ran. -/
def ran : Visit → Bool
  | .invoked _ => true
  | _ => false

/-- Whether the visit removed the record. -/
def removed : Visit → Bool
  | .released => true
  | .invoked went => went
  | _ => false

end Visit

/-- What a pass did by itself, leaving aside the passes begun by its callbacks. -/
structure Pass where
  /-- The visits it made, in order. -/
  visits : List (CallbackId × Visit)
  /-- The handles it disconnected, in order. -/
  disconnected : List OpenHandle

/-- What a pass did, in numbers. -/
def Pass.tally (p : Pass) : Tally where
  invoked := p.visits.countP fun (_, v) => v.ran
  released := p.visits.countP fun (_, v) => v.removed
  disconnected := p.disconnected.length

namespace Act

/-- Decides about a record; a pending one is removed. -/
def decide (c : ContextId) (id : CallbackId) (d : Device) (e : Event) : Act κ τ (Verdict κ) := do
  let (verdict, registry) := (← context c).registry.decide id d e
  modifyContext c fun x => { x with registry }
  note (.decided c id verdict.decision)
  return verdict

/-- Removes a record after its callback ran, if the callback wants it or the
record is pending, and tells whether it did. -/
def commit (c : ContextId) (id : CallbackId) (wish : Wish) : Act κ τ Bool := do
  let registry := (← context c).registry
  let released := registry.releases id wish
  modifyContext c fun x => { x with registry := registry.commit id wish }
  note (.committed c id wish released)
  return released

/-- Makes a record pending, and tells whether it is live. -/
def markPending (c : ContextId) (id : CallbackId) : Act κ τ Bool := do
  let registry := (← context c).registry
  modifyContext c fun x => { x with registry := registry.markPending id }
  if registry.contains id then note (.marked c id)
  return registry.contains id

/-- Runs a callback. -/
def invoke (host : Host κ τ) (c : ContextId) (id : CallbackId) (program : κ)
    (d : Device) (e : Event) : Act κ τ Wish := do
  note (.delivered c id d e)
  host.react { context := c, callback := id, program, device := d, event := e }

/-- Visits a record: decides, runs the callback if it is to be run, commits. -/
def visit (host : Host κ τ) (c : ContextId) (d : Device) (e : Event) (id : CallbackId) :
    Act κ τ Visit := do
  match ← decide c id d e with
  | .gone => return .gone
  | .released => return .released
  | .skip => return .skipped
  | .invoke program =>
    let wish ← invoke host c id program d e
    return .invoked (← commit c id wish)

/-- Visits records one after the other. -/
def visitAll (host : Host κ τ) (c : ContextId) (d : Device) (e : Event) :
    List CallbackId → Act κ τ (List (CallbackId × Visit))
  | [] => return []
  | id :: rest => do
    let v ← visit host c d e id
    return (id, v) :: (← visitAll host c d e rest)

/-- Tells a context's platform that a handle's device is gone. -/
def giveUp (c : ContextId) (h : OpenHandle) : Act κ τ Unit := do
  modifyContext c fun x => { x with platform := x.platform.giveUp h }
  if let .simulated .. := (← context c).platform then note (.disconnected c h)

/-- Disconnects a handle unless that has happened before, and tells whether it
did. -/
def disconnect (c : ContextId) (h : OpenHandle) : Act κ τ Bool := do
  if (← get).isDisconnected h.id then
    return false
  modify fun w => { w with disconnected := h.id :: w.disconnected }
  giveUp c h
  return true

/-- Disconnects handles one after the other; answers with those that were not
disconnected before. -/
def disconnectAll (c : ContextId) : List OpenHandle → Act κ τ (List OpenHandle)
  | [] => return []
  | h :: rest => do
    let new ← disconnect c h
    let others ← disconnectAll c rest
    return if new then h :: others else others

/-- Disconnects the handles open on a device. -/
def disconnectOn (c : ContextId) (d : Device) : Act κ τ (List OpenHandle) := do
  disconnectAll c ((← context c).opens.on d.id)

/-- Visits the records that are live, then follows up a departure. -/
def pass (host : Host κ τ) (c : ContextId) (d : Device) (e : Event) : Act κ τ Pass := do
  let w ← get
  let visits ← visitAll host c d e (host.order w (w.context c).registry.ids)
  let disconnected ← if e = .left then disconnectOn c d else pure []
  return { visits, disconnected }

/-- Tells the callbacks of a context of an event at a device. -/
def notify (host : Host κ τ) (c : ContextId) (d : Device) (e : Event) : Act κ τ Tally := do
  note (.passBegan c d e)
  let p ← pass host c d e
  note (.passEnded c d e p.tally)
  return p.tally

end Act
end DeviceWatch
