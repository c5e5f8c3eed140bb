import DeviceWatch.Filter
/-!
# Registries

A registry holds the callbacks registered with a context. A record leaves it
in one of three ways: a decision finds it pending, a commit follows its
callback's wish or a deregistration made while the callback ran, or the whole
registry is cleared. Between a decision and its commit anything may happen to
the record, so both look it up anew.

The programs that callbacks run are a parameter `κ`; a registry only stores
them and hands them back.
-/

namespace DeviceWatch

/-- Where a live record stands. -/
inductive Status where
  /-- Events are delivered to it. -/
  | active
  /-- Nothing is delivered any more; it goes at the next chance. -/
  | pending
  deriving DecidableEq, Inhabited

/-- What a callback wants when it is done with an event. -/
inductive Wish where
  | rearm
  | deregister
  deriving DecidableEq, Inhabited

/-- One registration. -/
structure Record (κ : Type) where
  id : CallbackId
  /-- The context it was made with. -/
  owner : ContextId
  events : EventSet
  filter : Filter
  /-- What runs when it hears of an event. -/
  program : κ
  status : Status

/-- The callbacks registered with a context. -/
structure Registry (κ : Type) where
  /-- The live records, oldest first. -/
  records : List (Record κ) := []
  /-- The greatest number of live records, if there is one. -/
  limit : Option Nat := none

/-- What was decided about a record at an event. -/
inductive Decision where
  /-- There is no such record. -/
  | gone
  /-- The record was pending and has been removed. -/
  | released
  /-- The record does not listen for this. -/
  | skip
  /-- The record's callback is to be run. -/
  | invoke
  deriving DecidableEq, Inhabited

/-- A decision about a record, with the program to run if one is to be run. -/
inductive Verdict (κ : Type) where
  /-- There is no such record. -/
  | gone
  /-- The record was pending and has been removed. -/
  | released
  /-- The record does not listen for this. -/
  | skip
  /-- The program is to be run. -/
  | invoke (program : κ)

/-- A verdict without its program. -/
def Verdict.decision {κ : Type} : Verdict κ → Decision
  | .gone => .gone
  | .released => .released
  | .skip => .skip
  | .invoke _ => .invoke

namespace Record

variable {κ : Type}

/-- Whether the record listens for an event at a device. -/
def hears (r : Record κ) (d : Device) (e : Event) : Bool :=
  r.filter.hears r.events d e

end Record

namespace Registry

variable {κ : Type}

/-- The live record with an identity. -/
def get? (r : Registry κ) (id : CallbackId) : Option (Record κ) :=
  r.records.find? (·.id == id)

/-- Whether a record with an identity is live. -/
def contains (r : Registry κ) (id : CallbackId) : Bool :=
  (r.get? id).isSome

/-- Where the live record with an identity stands. -/
def status? (r : Registry κ) (id : CallbackId) : Option Status :=
  (r.get? id).map Record.status

/-- The identities of the live records, oldest first. -/
def ids (r : Registry κ) : List CallbackId :=
  r.records.map Record.id

/-- The number of live records. -/
def size (r : Registry κ) : Nat :=
  r.records.length

/-- Whether no further record fits. -/
def isFull (r : Registry κ) : Bool :=
  match r.limit with
  | none => false
  | some limit => limit ≤ r.size

/-- The registry with one more record. -/
def insert (r : Registry κ) (record : Record κ) : Registry κ :=
  { r with records := r.records ++ [record] }

/-- The registry without the record with an identity. -/
def erase (r : Registry κ) (id : CallbackId) : Registry κ :=
  { r with records := r.records.filter (·.id != id) }

/-- The registry without any record. -/
def clear (r : Registry κ) : Registry κ :=
  { r with records := [] }

/-- The registry with the record with an identity made pending. -/
def markPending (r : Registry κ) (id : CallbackId) : Registry κ :=
  { r with records := r.records.map fun x => if x.id == id then { x with status := .pending } else x }

/-- Decides about a record at an event. A pending record is removed, whether or
not it listens for the event. -/
def decide (r : Registry κ) (id : CallbackId) (d : Device) (e : Event) : Verdict κ × Registry κ :=
  match r.get? id with
  | none => (.gone, r)
  | some record =>
    match record.status with
    | .pending => (.released, r.erase id)
    | .active => if record.hears d e then (.invoke record.program, r) else (.skip, r)

/-- Whether a record goes after its callback ran with a wish. -/
def releases (r : Registry κ) (id : CallbackId) (wish : Wish) : Bool :=
  match r.get? id with
  | none => false
  | some record => wish = .deregister || record.status = .pending

/-- The registry after a record's callback ran with a wish: the record goes if
that was the wish or if it became pending in the meantime. -/
def commit (r : Registry κ) (id : CallbackId) (wish : Wish) : Registry κ :=
  if r.releases id wish then r.erase id else r

end Registry
end DeviceWatch
