import DeviceWatch.Device
import DeviceWatch.FillGap
/-!
# Rosters

A roster is the list of the devices attached to a context. It holds one
device for an identity: a device attached under an identity in use takes the
place of the older one and stands last.
-/

namespace DeviceWatch

/-- The devices attached to a context. -/
structure Roster where
  /-- The devices, in the order in which listings show them. -/
  toList : List Device := []
  deriving DecidableEq, Inhabited

namespace Roster

/-- The device with an identity. -/
def get? (r : Roster) (id : DeviceId) : Option Device :=
  r.toList.find? (·.id == id)

/-- The roster with a device attached last, in place of any with its identity. -/
def attach (r : Roster) (d : Device) : Roster :=
  ⟨r.toList.filter (·.id != d.id) ++ [d]⟩

/-- The device with an identity and the roster without it. -/
def detach? (r : Roster) (id : DeviceId) : Option (Device × Roster) :=
  (takeFirst? (·.id == id) r.toList).map fun (d, rest) => (d, ⟨rest⟩)

/-- The number of attached devices. -/
def size (r : Roster) : Nat :=
  r.toList.length

/-- The identities of the attached devices, in list order. -/
def ids (r : Roster) : List DeviceId :=
  r.toList.map Device.id

end Roster
end DeviceWatch
