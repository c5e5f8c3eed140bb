import DeviceWatch.Text.Digits
/-!
# Devices

A device has an identity, a place on a bus and the descriptor by which
filters select it. Contexts, callbacks and open handles are named by numbers
of their own, each drawn from one counter for the whole system.
-/

namespace DeviceWatch

open Text

/-- The identity of a device within its context. -/
structure DeviceId where
  val : Nat
  deriving DecidableEq, Inhabited

/-- The identity of a context. -/
structure ContextId where
  val : Nat
  deriving DecidableEq, Inhabited

/-- The identity of a registration. -/
structure CallbackId where
  val : Nat
  deriving DecidableEq, Inhabited

/-- The identity of an open handle. -/
structure OpenId where
  val : Nat
  deriving DecidableEq, Inhabited

/-- The identity of a bus. -/
structure BusId where
  val : Nat
  deriving DecidableEq, Inhabited

/-- The identity of a detector. -/
structure DetectorId where
  val : Nat
  deriving DecidableEq, Inhabited

/-- A device's identity as written in messages. -/
def DeviceId.text (d : DeviceId) : String :=
  "dev#" ++ decimal d.val

/-- A context's identity as written in messages. -/
def ContextId.text (c : ContextId) : String :=
  "ctx#" ++ decimal c.val

/-- A registration's identity as written in messages. -/
def CallbackId.text (h : CallbackId) : String :=
  "cb#" ++ decimal h.val

/-- What a device says of itself. -/
structure Descriptor where
  vendor : UInt16
  product : UInt16
  deviceClass : UInt8
  deriving DecidableEq, Inhabited

/-- A device at its place on a bus. -/
structure Device where
  id : DeviceId
  bus : UInt8
  address : UInt8
  descriptor : Descriptor
  deriving DecidableEq, Inhabited

namespace Device

/-- The vendor in the descriptor. -/
def vendor (d : Device) : UInt16 := d.descriptor.vendor

/-- The product in the descriptor. -/
def product (d : Device) : UInt16 := d.descriptor.product

/-- The class code in the descriptor. -/
def deviceClass (d : Device) : UInt8 := d.descriptor.deviceClass

/-- A device as written in messages: bus and address in decimal, vendor and
product in hexadecimal. -/
def text (d : Device) : String :=
  decimalFilled 3 d.bus.toNat ++ ":" ++ decimalFilled 3 d.address.toNat ++ " "
    ++ hexFilled 4 d.vendor.toNat ++ ":" ++ hexFilled 4 d.product.toNat

end Device

/-- A device that is to be plugged in. -/
structure DeviceSpec where
  label : String := ""
  vendor : UInt16
  product : UInt16
  deviceClass : UInt8 := 0
  deriving DecidableEq, Inhabited

/-- What a device made to a specification says of itself. -/
def DeviceSpec.descriptor (s : DeviceSpec) : Descriptor :=
  ⟨s.vendor, s.product, s.deviceClass⟩

end DeviceWatch
