import DeviceWatch.Bus
import DeviceWatch.UsbCodes
/-!
# Serial ports

A watcher turns listings of serial ports into arrivals and departures on a
bus. A port is known by its name; the device behind it by vendor, product and
serial number. Each listing is compared with what is attached: departures come
first, then each listed port that is not attached is plugged in, so of two
entries with one name the first counts.
-/

namespace DeviceWatch

/-- What a listing tells of a port. -/
inductive PortKind where
  /-- A device behind a USB port. -/
  | usb (vendor product : UInt16) (serial : Option String) (productName : Option String)
  | other
  deriving DecidableEq, Inhabited

/-- An entry of a listing. -/
structure ListedPort where
  name : String
  kind : PortKind
  deriving DecidableEq, Inhabited

/-- A serial port with a USB device behind it. -/
structure SerialPort where
  name : String
  vendor : UInt16
  product : UInt16
  /-- The device's serial number, if it has one. -/
  serial : Option String
  /-- What the device calls itself, if it does. -/
  productName : Option String
  deriving DecidableEq, Inhabited

namespace SerialPort

/-- The serial port of an entry that has a USB device behind it. -/
def ofListed? (p : ListedPort) : Option SerialPort :=
  match p.kind with
  | .usb vendor product serial productName => some ⟨p.name, vendor, product, serial, productName⟩
  | .other => none

/-- The device to plug in for a port. A port does not tell its device's class. -/
def spec (p : SerialPort) : DeviceSpec where
  label := p.name
  vendor := p.vendor
  product := p.product
  deviceClass := UsbCodes.perInterface

/-- Whether two ports have one device behind them. -/
def sameDevice (p q : SerialPort) : Bool :=
  p.vendor == q.vendor && p.product == q.product && p.serial == q.serial

end SerialPort

/-- Whether a text stands somewhere within another. -/
def occursIn (pattern : List Char) : List Char → Bool
  | [] => pattern.isEmpty
  | c :: rest => pattern.isPrefixOf (c :: rest) || occursIn pattern rest

/-- The failure of a listing. -/
structure ListingError where
  reason : String
  deriving DecidableEq

/-- The messages of a failed listing, outermost first. -/
def ListingError.chain (e : ListingError) : List String :=
  ["failed to enumerate serial ports", e.reason]

/-- A listing of the ports, or its failure. -/
abbrev Listing : Type :=
  Except ListingError (List ListedPort)

/-- What a listing changed. -/
structure PortChanges where
  /-- The devices plugged in, in the order of the listing. -/
  arrived : List DeviceId := []
  left : List DeviceId := []
  deriving DecidableEq, Inhabited

/-- Whether nothing changed. -/
def PortChanges.isEmpty (c : PortChanges) : Bool :=
  c.arrived.isEmpty && c.left.isEmpty

/-- A watcher of the ports. -/
structure Watcher where
  /-- Ports whose name contains one of these are left out. -/
  skipPatterns : List String := []
  /-- The attached ports with their devices, oldest first. -/
  attached : List (SerialPort × DeviceId) := []
  deriving DecidableEq, Inhabited

namespace Watcher

variable {κ τ : Type}

/-- Whether a port is left out. -/
def skips (w : Watcher) (p : SerialPort) : Bool :=
  w.skipPatterns.any fun pattern => occursIn pattern.toList p.name.toList

/-- The serial ports of a listing that are not left out. -/
def choose (w : Watcher) (listed : List ListedPort) : List SerialPort :=
  (listed.filterMap SerialPort.ofListed?).filter fun p => !w.skips p

/-- Whether a port of that name is attached. -/
def isAttached (w : Watcher) (name : String) : Bool :=
  w.attached.any fun (p, _) => p.name == name

/-- The watcher without the port of a name. -/
def remove (w : Watcher) (name : String) : Watcher :=
  { w with attached := w.attached.filter fun (p, _) => p.name != name }

/-- The watcher with one more port. -/
def add (w : Watcher) (p : SerialPort) (id : DeviceId) : Watcher :=
  { w with attached := w.attached ++ [(p, id)] }

/-- The attached ports whose device is not among the listed ones. -/
def departed (w : Watcher) (ports : List SerialPort) : List (SerialPort × DeviceId) :=
  w.attached.filter fun (seen, _) =>
    !ports.any fun p => p.name == seen.name && p.sameDevice seen

/-- Unplugs the devices of ports. -/
def unplugAll (host : Host κ τ) (b : BusId) :
    List (SerialPort × DeviceId) → Watcher → Act κ τ (Watcher × List DeviceId)
  | [], w => return (w, [])
  | (p, id) :: rest, w => do
    match ← Act.unplug host b id with
    | .ok _ =>
      Act.note (.portRemoved p.name)
      let (w, left) ← unplugAll host b rest (w.remove p.name)
      return (w, id :: left)
    | .error _ =>
      Act.note (.portVanished p.name id)
      unplugAll host b rest (w.remove p.name)

/-- Plugs in a device for each port that is not attached. -/
def plugAll (host : Host κ τ) (b : BusId) :
    List SerialPort → Watcher → Act κ τ (Watcher × List DeviceId)
  | [], w => return (w, [])
  | p :: rest, w => do
    if w.isAttached p.name then
      plugAll host b rest w
    else
      let (d, _) ← Act.plug host b p.spec
      Act.note (.portAdded p.name p.productName)
      let (w, arrived) ← plugAll host b rest (w.add p d.id)
      return (w, d.id :: arrived)

/-- Brings the bus in line with the listed ports. -/
def update (host : Host κ τ) (b : BusId) (ports : List SerialPort) (w : Watcher) :
    Act κ τ (Watcher × PortChanges) := do
  let (w, left) ← unplugAll host b (w.departed ports) w
  let (w, arrived) ← plugAll host b ports w
  return (w, { arrived, left })

/-- Brings the bus in line with a listing, unless the listing failed. -/
def poll (host : Host κ τ) (b : BusId) (listing : Listing) (w : Watcher) :
    Act κ τ (Watcher × Except ListingError PortChanges) := do
  match listing with
  | .error e => return (w, .error e)
  | .ok listed =>
    let (w, changes) ← update host b (w.choose listed) w
    return (w, .ok changes)

end Watcher
end DeviceWatch
