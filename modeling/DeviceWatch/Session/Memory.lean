import DeviceWatch.Session.Answer
import DeviceWatch.Act
/-!
# The memory of a session

What a session keeps beside the world: how often each callback ran, what
names and numbers refer to, and whatever was put into slots. Slots belong to
the session; a detector belongs to its context.
-/

namespace DeviceWatch.Session

/-- What a registered callback runs. -/
structure Program where
  /-- The name it was registered under. -/
  name : String
  /-- What it does on its runs. -/
  script : Script Operation

/-- The detector of a context. -/
inductive DetectorSlot where
  | none
  | some (d : DetectorId)
  /-- There is one, and it is in use by an operation under way. -/
  | busy (d : DetectorId)

/-- What a session keeps. -/
structure Memory where
  /-- The number of runs of each callback. -/
  runs : List (CallbackId × Nat) := []
  /-- The latest registration under each name. -/
  names : List (String × CallbackId) := []
  /-- The registrations that were told to the session. -/
  known : List CallbackId := []
  /-- The open handles that were told to the session. -/
  opens : List OpenHandle := []
  cursors : List (Nat × List CallbackId) := []
  watchers : List (Nat × Watcher) := []
  mailboxes : List (Nat × DetectorId × Nat) := []
  detectors : Store DetectorSlot := { blank := .none }
  /-- The callbacks that ran under the operation under way, oldest first. -/
  log : List Entry := []
  /-- Whether the operation under way replays a scenario, at any depth. While it
  does nobody may wait for a detector or replay another scenario: that panics. -/
  replaying : Bool := false

/-- Puts a value into a slot. -/
def putSlot {α : Type} (slots : List (Nat × α)) (slot : Nat) (a : α) : List (Nat × α) :=
  (slot, a) :: slots.filter fun entry => entry.1 != slot

/-- Empties a slot. -/
def emptySlot {α : Type} (slots : List (Nat × α)) (slot : Nat) : List (Nat × α) :=
  slots.filter fun entry => entry.1 != slot

namespace Memory

/-- The number of runs of a callback so far. -/
def runsOf (m : Memory) (id : CallbackId) : Nat :=
  (m.runs.lookup id).getD 0

/-- The memory after one more run of a callback. -/
def countRun (m : Memory) (id : CallbackId) : Memory :=
  { m with runs := (id, m.runsOf id + 1) :: m.runs.filter fun entry => entry.1 != id }

/-- The memory after a registration under a name was told. -/
def learn (m : Memory) (name : String) (id : CallbackId) : Memory :=
  { m with
    names := (name, id) :: m.names.filter fun entry => entry.1 != name
    known := id :: m.known }

/-- The memory after an open handle was told. -/
def learnOpen (m : Memory) (h : OpenHandle) : Memory :=
  { m with opens := h :: m.opens.filter fun other => other.id != h.id }

/-- The open handle with a number. -/
def open? (m : Memory) (n : Nat) : Option OpenHandle :=
  m.opens.find? fun h => h.id.val == n

end Memory

/-- The world of a session. -/
abbrev State : Type := World Program Memory

/-- An act in a session. -/
abbrev Deed (α : Type) : Type := Act Program Memory α

/-- What callbacks do in a session. -/
abbrev Stage : Type := Host Program Memory

namespace Deed

/-- Puts a log in the place of the one kept. -/
def setLog (log : List Entry) : Deed Unit :=
  Act.remember fun m => { m with log }

/-- Performs a deed, and tells which callbacks ran under it. A panic leaves
the log as it was before the deed. -/
def logged {α : Type} (deed : Deed α) : Deed (α × List Entry) := do
  let before := (← Act.memory).log
  setLog []
  let telling : Deed (α × List Entry) := do
    let a ← deed
    return (a, (← Act.memory).log)
  telling.ensuring (setLog before)

/-- Says whether a scenario is being replayed. -/
def setReplaying (replaying : Bool) : Deed Unit :=
  Act.remember fun m => { m with replaying }

/-- Performs a deed as part of a replay, or apart from any. Afterwards, also
after a panic, what was under way before goes on. -/
def during {α : Type} (replaying : Bool) (deed : Deed α) : Deed α := do
  let before := (← Act.memory).replaying
  setReplaying replaying
  deed.ensuring (setReplaying before)

/-- The registration that a reference leads to in a context. -/
def callback? (c : ContextId) (ref : CallbackRef) : Deed (Option CallbackId) := do
  let m ← Act.memory
  match ref with
  | .name name => return m.names.lookup name
  | .number n =>
    let id : CallbackId := ⟨n⟩
    if m.known.contains id || (← Act.context c).registry.contains id then
      return some id
    else
      return none

/-- The device that a reference leads to in a context. -/
def device? (c : ContextId) (ref : DeviceRef) : Deed (Option Device) := do
  match ref with
  | .device d => return some d
  | .attached n => return (← Act.context c).roster.get? ⟨n⟩

/-- The open handle with a number. -/
def open? (n : Nat) : Deed (Option OpenHandle) :=
  return (← Act.memory).open? n

/-- The detector of a context that is not in use. -/
def detector? (c : ContextId) : Deed (Option DetectorId) := do
  match (← Act.memory).detectors.get c.val with
  | .some d => return some d
  | _ => return none

/-- Changes the detector of a context. -/
def setDetector (c : ContextId) (slot : DetectorSlot) : Deed Unit :=
  Act.remember fun m => { m with detectors := m.detectors.set c.val slot }

/-- Goes on with what a reference led to. -/
def following {α : Type} (found : Option α) (go : α → Deed Answer) : Deed Answer :=
  match found with
  | none => return .noReference
  | some a => go a

end Deed
end DeviceWatch.Session
