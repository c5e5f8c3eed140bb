import DeviceWatch.Detector
import DeviceWatch.OpenHandle
import DeviceWatch.Registry
import DeviceWatch.Roster
import DeviceWatch.Settings
import DeviceWatch.Store
/-!
# The world

A world holds any number of contexts with their buses and detectors, the
counters that name things, the marks on disconnected handles, and whatever the
callbacks remember between their runs. What happened on the way to a world is
no part of it.
-/

namespace DeviceWatch

/-- A handle that a platform was told to give up. -/
structure Disconnect where
  handle : OpenId
  /-- The device it was opened on. -/
  device : DeviceId
  deriving DecidableEq, Inhabited

/-- What lies beneath a context. -/
inductive Platform where
  /-- A platform that cannot tell of devices that come and go. -/
  | bare
  /-- A simulated platform that keeps a record of the handles it gave up. -/
  | simulated (hotplug : Bool) (disconnects : List Disconnect)
  deriving DecidableEq, Inhabited

namespace Platform

/-- Whether the platform tells of devices that come and go. -/
def hasHotplug : Platform → Bool
  | .bare => false
  | .simulated hotplug _ => hotplug

/-- The platform with its ability switched, if it has a switch. -/
def setHotplug (on : Bool) : Platform → Platform
  | .bare => .bare
  | .simulated _ disconnects => .simulated on disconnects

/-- The handles given up so far, oldest first. -/
def disconnects : Platform → List Disconnect
  | .bare => []
  | .simulated _ disconnects => disconnects

/-- The platform after it gave up a handle. -/
def giveUp (h : OpenHandle) : Platform → Platform
  | .bare => .bare
  | .simulated hotplug disconnects =>
    .simulated hotplug (disconnects ++ [⟨h.id, h.device.id⟩])

end Platform

/-- A registry, a roster and a list of open handles on a platform. -/
structure Context (κ : Type) where
  settings : ContextSettings := {}
  platform : Platform := .bare
  registry : Registry κ := {}
  roster : Roster := {}
  opens : OpenList := {}

/-- A fresh context; its registry takes its limit from the settings. -/
def Context.create {κ : Type} (platform : Platform) (settings : ContextSettings) : Context κ where
  settings
  platform
  registry := { limit := settings.maxCallbacks.map UInt64.toNat }

/-- Whether callbacks may be registered with a context. -/
def Context.hasHotplug {κ : Type} (c : Context κ) : Bool :=
  c.settings.hotplugEnabled && c.platform.hasHotplug

/-- A bus that attaches devices to a context. -/
structure Bus where
  /-- The context whose roster it keeps. -/
  context : ContextId
  /-- The number of the next device. -/
  nextDevice : Nat := 1
  deriving DecidableEq, Inhabited

/-- Contexts and buses with all that they share. -/
structure World (κ τ : Type) where
  contexts : Store (Context κ) := { blank := {} }
  buses : Store Bus := { blank := { context := ⟨0⟩ } }
  detectors : Store Detector := { blank := { bus := ⟨0⟩, running := false } }
  /-- The number of the next context. -/
  nextContext : Nat := 1
  /-- The number of the next bus. -/
  nextBus : Nat := 1
  /-- The number of the next detector. -/
  nextDetector : Nat := 1
  /-- The number of the next registration, whatever its context. -/
  nextCallback : Nat := 1
  /-- The number of the next open handle, whatever its context. -/
  nextOpen : Nat := 1
  /-- The handles whose device is known to be gone. -/
  disconnected : List OpenId := []
  memory : τ

namespace World

variable {κ τ : Type}

/-- The context with an identity. -/
def context (w : World κ τ) (c : ContextId) : Context κ :=
  w.contexts.get c.val

/-- The world with a context changed. -/
def modifyContext (w : World κ τ) (c : ContextId) (f : Context κ → Context κ) : World κ τ :=
  { w with contexts := w.contexts.modify c.val f }

/-- The bus with a name. -/
def bus (w : World κ τ) (b : BusId) : Bus :=
  w.buses.get b.val

/-- The context that a bus attaches its devices to. -/
def contextOf (w : World κ τ) (b : BusId) : ContextId :=
  (w.bus b).context

/-- The detector with a name. -/
def detector (w : World κ τ) (d : DetectorId) : Detector :=
  w.detectors.get d.val

/-- The world with a detector changed. -/
def modifyDetector (w : World κ τ) (d : DetectorId) (f : Detector → Detector) : World κ τ :=
  { w with detectors := w.detectors.modify d.val f }

/-- Whether a handle's device is known to be gone. -/
def isDisconnected (w : World κ τ) (h : OpenId) : Bool :=
  w.disconnected.contains h

/-- The world with a fresh context, and the context's identity. -/
def addContext (w : World κ τ) (platform : Platform) (settings : ContextSettings) :
    World κ τ × ContextId :=
  ({ w with
      contexts := w.contexts.set w.nextContext (.create platform settings)
      nextContext := w.nextContext + 1 },
    ⟨w.nextContext⟩)

/-- The world with a fresh bus on a context, and the bus's name. -/
def addBus (w : World κ τ) (c : ContextId) : World κ τ × BusId :=
  ({ w with
      buses := w.buses.set w.nextBus { context := c }
      nextBus := w.nextBus + 1 },
    ⟨w.nextBus⟩)

/-- The world with a fresh detector on a bus, and the detector's name. -/
def addDetector (w : World κ τ) (b : BusId) : World κ τ × DetectorId :=
  ({ w with
      detectors := w.detectors.set w.nextDetector { bus := b }
      nextDetector := w.nextDetector + 1 },
    ⟨w.nextDetector⟩)

end World

end DeviceWatch
