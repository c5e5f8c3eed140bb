import DeviceWatch.Bus
import DeviceWatch.Scenario
import DeviceWatch.Text.Quoted
/-!
# Replays

A replay applies the steps of a scenario to a bus. It remembers which device
goes by which name, and for each name the handles that were opened under it
and not used since, oldest first. A name may be plugged in again after it was
unplugged; the handles opened before are still there and are used first.

`apply` takes a single step; `run` replays a whole scenario and stops at the
first step that fails. Waiting takes time and has no other effect.
-/

namespace DeviceWatch

open Text

/-- Why a step failed. -/
inductive StepError where
  | alreadyPlugged (name : String)
  /-- No device goes by the name. -/
  | notPlugged (name : String)
  /-- No handle of the name is left. -/
  | noHandle (name : String)
  | bus (e : BusError)
  deriving DecidableEq

/-- The text of a failed step. -/
def StepError.text : StepError → String
  | .alreadyPlugged name => "device " ++ quoted name ++ " is already plugged in"
  | .notPlugged name => "no device named " ++ quoted name ++ " is plugged in"
  | .noHandle name => "no open handle on " ++ quoted name
  | .bus e => e.text

/-- A step that failed, with its place in the scenario, counted from 1. -/
structure ReplayError where
  place : Nat
  error : StepError
  deriving DecidableEq

/-- The messages of a failed replay, outermost first. -/
def ReplayError.chain (e : ReplayError) : List String :=
  ["step " ++ decimal e.place ++ " failed", e.error.text]

/-- What a replay did. -/
structure ReplayReport where
  steps : Nat := 0
  /-- The number of callbacks that ran. -/
  invoked : Nat := 0
  /-- The number of handles that were disconnected. -/
  disconnected : Nat := 0
  deriving DecidableEq, Inhabited

/-- The report with one more step that led to no pass. -/
def ReplayReport.count (r : ReplayReport) : ReplayReport :=
  { r with steps := r.steps + 1 }

/-- The report with one more step that led to a pass. -/
def ReplayReport.record (r : ReplayReport) (t : Tally) : ReplayReport :=
  { steps := r.steps + 1
    invoked := r.invoked + t.invoked
    disconnected := r.disconnected + t.disconnected }

/-- The state of a replay. -/
structure Replay where
  /-- The devices that go by a name. -/
  names : List (String × DeviceId) := []
  /-- The unused handles, oldest first, with the names they were opened under. -/
  handles : List (String × OpenHandle) := []
  report : ReplayReport := {}
  deriving DecidableEq, Inhabited

namespace Replay

variable {κ τ : Type}

/-- The device that goes by a name. -/
def device? (r : Replay) (name : String) : Option DeviceId :=
  r.names.lookup name

/-- The replay with a device under a name. -/
def addName (r : Replay) (name : String) (id : DeviceId) : Replay :=
  { r with names := r.names ++ [(name, id)] }

/-- The replay with a name given up. -/
def dropName (r : Replay) (name : String) : Replay :=
  { r with names := r.names.filter fun entry => entry.1 != name }

/-- The unused handles of a name, oldest first. -/
def queue (r : Replay) (name : String) : List OpenHandle :=
  r.handles.filterMap fun entry => if entry.1 == name then some entry.2 else none

/-- The replay with one more unused handle. -/
def addHandle (r : Replay) (name : String) (h : OpenHandle) : Replay :=
  { r with handles := r.handles ++ [(name, h)] }

/-- The oldest unused handle of a name, and the replay without it. -/
def takeHandle? (r : Replay) (name : String) : Option (OpenHandle × Replay) := do
  let entry ← r.handles.find? fun entry => entry.1 == name
  return (entry.2, { r with handles := r.handles.eraseP fun entry => entry.1 == name })

/-- The replay with one more step that led to no pass. -/
def count (r : Replay) : Replay :=
  { r with report := r.report.count }

/-- The replay with one more step that led to a pass. -/
def record (r : Replay) (t : Tally) : Replay :=
  { r with report := r.report.record t }

/-- Takes a step. A step that fails changes nothing. -/
def apply (host : Host κ τ) (b : BusId) (r : Replay) (step : Step) :
    Act κ τ (Except StepError Replay) := do
  match step with
  | .plug name vendor product deviceClass =>
    if (r.device? name).isSome then
      return .error (.alreadyPlugged name)
    let (d, tally) ← Act.plug host b { label := name, vendor, product, deviceClass }
    return .ok ((r.addName name d.id).record tally)
  | .unplug name =>
    match r.device? name with
    | none => return .error (.notPlugged name)
    | some id =>
      match ← Act.unplug host b id with
      | .error e => return .error (.bus e)
      | .ok (_, tally) => return .ok ((r.dropName name).record tally)
  | .openHandle name =>
    match r.device? name with
    | none => return .error (.notPlugged name)
    | some id =>
      match ← Act.openDevice b id with
      | .error e => return .error (.bus e)
      | .ok h => return .ok (r.addHandle name h).count
  | .closeHandle name =>
    match r.takeHandle? name with
    | none => return .error (.noHandle name)
    | some (h, r) =>
      let _ ← Act.closeDevice b h
      return .ok r.count
  | .transferFailed name =>
    match r.takeHandle? name with
    | none => return .error (.noHandle name)
    | some (h, r) =>
      let tally ← Act.transferFailed host b h
      return .ok ((r.dropName name).record tally)
  | .sleep _ => return .ok r.count

/-- Takes steps one after the other, the first of them at a place in the
scenario. Waiting is not left to `apply`, as it takes its time here. -/
def runFrom (host : Host κ τ) (b : BusId) (place : Nat) :
    List Step → Replay → Act κ τ (Except ReplayError ReplayReport)
  | [], r => return .ok r.report
  | .sleep _ :: rest, r => runFrom host b (place + 1) rest r.count
  | step :: rest, r => do
    match ← apply host b r step with
    | .error error => return .error { place, error }
    | .ok r => runFrom host b (place + 1) rest r

/-- Every step goes as `apply` takes it, also one that waits. -/
theorem runFrom_cons (host : Host κ τ) (b : BusId) (place : Nat) (step : Step)
    (rest : List Step) (r : Replay) :
    runFrom host b place (step :: rest) r = (do
      match ← apply host b r step with
      | .error error => return .error { place, error }
      | .ok r => runFrom host b (place + 1) rest r) := by
  cases step with
  | sleep millis =>
    have hwait : apply host b r (.sleep millis) = pure (.ok r.count) := rfl
    rw [runFrom, hwait, pure_bind]
  | _ => rfl

/-- Replays a scenario. -/
def run (host : Host κ τ) (b : BusId) (s : Scenario) :
    Act κ τ (Except ReplayError ReplayReport) := do
  if !s.description.isEmpty then Act.note (.replaying s.description)
  runFrom host b 1 s.steps {}

end Replay
end DeviceWatch
