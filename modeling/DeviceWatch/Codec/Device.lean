import DeviceWatch.Codec.Basic
import DeviceWatch.Filter
/-!
# Events, devices and filters as JSON

Sets of events and flags are written as their bytes. An event is written by
its name, and is read also from an object whose only key is that name with
`null` under it.
-/

namespace DeviceWatch

open Json

/-- An event as a value. -/
def Event.toJson (e : Event) : Json :=
  .text e.name

/-- The event with a name. -/
def Event.ofName? (name : String) : Option Event :=
  if name = Event.arrived.name then some .arrived
  else if name = Event.left.name then some .left
  else none

/-- The event that a value stands for. -/
def Event.ofJson? : Json → Option Event
  | .string (some name) => Event.ofName? name
  | .object [(some name, .null)] => Event.ofName? name
  | _ => none

/-- A set of events as a value. -/
def EventSet.toJson (s : EventSet) : Json :=
  .ofByte s.bits

/-- The set of events that a value stands for. -/
def EventSet.ofJson? (v : Json) : Option EventSet :=
  v.asByte?.map EventSet.ofBits

/-- Flags as a value. -/
def Flags.toJson (f : Flags) : Json :=
  .ofByte f.bits

/-- The flags that a value stands for. -/
def Flags.ofJson? (v : Json) : Option Flags :=
  v.asByte?.map Flags.ofBits

/-- A device's identity as a value. -/
def DeviceId.toJson (d : DeviceId) : Json :=
  .nat d.val

/-- The device's identity that a value stands for; it fits into 64 bits. -/
def DeviceId.ofJson? (v : Json) : Option DeviceId :=
  (v.asNatBelow? UInt64.size).map DeviceId.mk

/-- A descriptor as a value. -/
def Descriptor.toJson (d : Descriptor) : Json :=
  .record [("vendor_id", .ofWord16 d.vendor), ("product_id", .ofWord16 d.product),
    ("device_class", .ofByte d.deviceClass)]

/-- The descriptor that a value stands for. -/
def Descriptor.ofJson? (v : Json) : Option Descriptor := do
  let fields ← v.fields? 3
  return {
    vendor := ← fields.required? 0 "vendor_id" asWord16?
    product := ← fields.required? 1 "product_id" asWord16?
    deviceClass := ← fields.required? 2 "device_class" asByte? }

/-- A filter as a value; an open field is `null`. -/
def Filter.toJson (f : Filter) : Json :=
  .record [("vendor_id", .ofOptional .ofWord16 f.vendor),
    ("product_id", .ofOptional .ofWord16 f.product),
    ("device_class", .ofOptional .ofByte f.deviceClass)]

/-- The filter that a value stands for; a missing field is open. -/
def Filter.ofJson? (v : Json) : Option Filter := do
  let fields ← v.fields? 3
  return {
    vendor := ← fields.optional? 0 "vendor_id" (asOptional? asWord16?) none
    product := ← fields.optional? 1 "product_id" (asOptional? asWord16?) none
    deviceClass := ← fields.optional? 2 "device_class" (asOptional? asByte?) none }

/-- A device to be plugged in, as a value. -/
def DeviceSpec.toJson (s : DeviceSpec) : Json :=
  .record [("label", .text s.label), ("vendor_id", .ofWord16 s.vendor),
    ("product_id", .ofWord16 s.product), ("device_class", .ofByte s.deviceClass)]

/-- The device to be plugged in that a value stands for. -/
def DeviceSpec.ofJson? (v : Json) : Option DeviceSpec := do
  let fields ← v.fields? 4
  return {
    label := ← fields.optional? 0 "label" asText? ""
    vendor := ← fields.required? 1 "vendor_id" asWord16?
    product := ← fields.required? 2 "product_id" asWord16?
    deviceClass := ← fields.optional? 3 "device_class" asByte? 0 }

end DeviceWatch
