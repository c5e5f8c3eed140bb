import DeviceWatch.Bus
/-!
# Detection

The acts of a detector. `step` applies the oldest command; between two steps
anybody may queue more, callbacks that run under the detector included. A
panic under a command ends the detector and nothing else: the change is not
reported, and what is queued is dropped.
-/

namespace DeviceWatch.Act

variable {κ τ : Type}

/-- Starts a detector on a bus. -/
def startDetector (b : BusId) : Act κ τ DetectorId :=
  modifyGet fun w => ((w.addDetector b).2, (w.addDetector b).1)

/-- Queues a command. -/
def send (d : DetectorId) (command : Command) : Act κ τ (Except DetectorError Unit) := do
  match ((← get).detector d).send? command with
  | none => return .error .stopped
  | some detector =>
    modifyDetector d fun _ => detector
    note (.queued d command)
    return .ok ()

/-- Queues commands one after the other. -/
def sendAll (d : DetectorId) : List Command → Act κ τ (List (Except DetectorError Unit))
  | [] => return []
  | command :: rest => do
    let first ← send d command
    return first :: (← sendAll d rest)

/-- Puts a change of the bus into all mailboxes. -/
def publish (d : DetectorId) (change : BusChange) : Act κ τ Unit := do
  modifyDetector d (·.publish change)
  note (.published d change)

/-- Applies a command. Unplugging a device that is not attached does nothing. -/
def apply (host : Host κ τ) (d : DetectorId) (b : BusId) : Command → Act κ τ Unit
  | .plug spec => do
    let (device, tally) ← plug host b spec
    publish d ⟨device, .arrived, tally⟩
  | .unplug id => do
    match ← unplug host b id with
    | .ok (device, tally) => publish d ⟨device, .left, tally⟩
    | .error _ => return ()
  | .sync token => modifyDetector d fun x => { x with answered := token :: x.answered }
  | .shutdown => modifyDetector d Detector.stop

/-- Applies the oldest queued command, if there is one. -/
def step (host : Host κ τ) (d : DetectorId) : Act κ τ Unit := do
  let detector := (← get).detector d
  match detector.queue with
  | [] => return ()
  | command :: rest =>
    modifyDetector d fun x => { x with queue := rest }
    note (.taken d command)
    (apply host d detector.bus command).recover (modifyDetector d Detector.stop)

/-- Applies a number of commands. -/
def steps (host : Host κ τ) (d : DetectorId) : Nat → Act κ τ Unit
  | 0 => return ()
  | n + 1 => do
    step host d
    steps host d n

/-- Waits until everything queued so far is done. It fails if the detector
stops before. -/
def sync (host : Host κ τ) (d : DetectorId) : Act κ τ (Except DetectorError Unit) := do
  let token := ((← get).detector d).syncs
  modifyDetector d fun x => { x with syncs := x.syncs + 1 }
  match ← send d (.sync token) with
  | .error e => return .error e
  | .ok () =>
    steps host d ((← get).detector d).queue.length
    if ((← get).detector d).answered.contains token then return .ok () else return .error .stopped

/-- Stops a detector after all that is queued, and gives it up. -/
def retire (host : Host κ τ) (d : DetectorId) : Act κ τ Unit := do
  let _ ← send d .shutdown
  steps host d ((← get).detector d).queue.length
  modifyDetector d fun x => { x with retired := true }

/-- Opens a mailbox for the changes to come, and tells its place. -/
def subscribe (d : DetectorId) : Act κ τ Nat := do
  let place := ((← get).detector d).mailboxes.length
  modifyDetector d Detector.subscribe
  return place

/-- Takes all there is out of a mailbox, and tells whether more may come. -/
def receive (d : DetectorId) (place : Nat) : Act κ τ (Mailbox × Bool) := do
  let detector := (← get).detector d
  modifyDetector d (·.emptied place)
  return (detector.mailbox place, !detector.retired)

end DeviceWatch.Act
