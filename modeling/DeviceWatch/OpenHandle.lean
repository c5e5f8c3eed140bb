import DeviceWatch.Device
import DeviceWatch.FillGap
/-!
# Open handles

An open handle is somebody's access to a device. The handle never changes;
whether it was disconnected is kept beside the contexts, so that the mark
outlives the handle's stay in the list of open ones.
-/

namespace DeviceWatch

/-- An access to a device. -/
structure OpenHandle where
  id : OpenId
  /-- The device it was opened on. -/
  device : Device
  deriving DecidableEq, Inhabited

/-- The handles open on a context's devices. -/
structure OpenList where
  /-- The handles, in the order in which listings show them. -/
  toList : List OpenHandle := []
  deriving DecidableEq, Inhabited

namespace OpenList

/-- The list with one more handle, last. -/
def push (l : OpenList) (h : OpenHandle) : OpenList :=
  ⟨l.toList ++ [h]⟩

/-- The list without a handle, if the handle is in it. -/
def close? (l : OpenList) (id : OpenId) : Option OpenList :=
  (takeFirst? (·.id == id) l.toList).map fun (_, rest) => ⟨rest⟩

/-- The handles on devices with an identity, in list order. -/
def on (l : OpenList) (d : DeviceId) : List OpenHandle :=
  l.toList.filter (·.device.id == d)

/-- The number of open handles. -/
def size (l : OpenList) : Nat :=
  l.toList.length

end OpenList
end DeviceWatch
