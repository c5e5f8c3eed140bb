import DeviceWatch.Device
import DeviceWatch.Event
/-!
# Filters

A filter fixes some of vendor, product and class and leaves the others open.
It may be given as three signed numbers, of which `-1` leaves a field open
and any other number must fit the field. `Selector.check` turns numbers into
a filter or names the first field that does not fit.
-/

namespace DeviceWatch

open Text

/-- A choice of devices; an absent field admits any value. -/
structure Filter where
  vendor : Option UInt16 := none
  product : Option UInt16 := none
  deviceClass : Option UInt8 := none
  deriving DecidableEq, Inhabited

namespace Filter

/-- Every device. -/
def any : Filter := {}

/-- Whether a field admits a value. -/
def admits {α : Type} [DecidableEq α] (wanted : Option α) (actual : α) : Bool :=
  match wanted with
  | none => true
  | some w => w == actual

/-- Whether the filter admits a device. -/
def accepts (f : Filter) (d : Device) : Bool :=
  admits f.vendor d.vendor && admits f.product d.product && admits f.deviceClass d.deviceClass

/-- Whether a listener for `events` under the filter hears of an event at a device. -/
def hears (f : Filter) (events : EventSet) (d : Device) (e : Event) : Bool :=
  events.contains e && f.accepts d

/-- A filter as written in messages: fields in hexadecimal, a star for an open one. -/
def text (f : Filter) : String :=
  let field (width : Nat) (value : Option Nat) : String :=
    match value with
    | some n => hexFilled width n
    | none => "*"
  field 4 (f.vendor.map UInt16.toNat) ++ ":" ++ field 4 (f.product.map UInt16.toNat)
    ++ " class " ++ field 2 (f.deviceClass.map UInt8.toNat)

end Filter

/-- A filter given as numbers that are still to be checked. -/
structure Selector where
  /-- The vendor, or `-1` for any. -/
  vendor : Int32
  /-- The product, or `-1` for any. -/
  product : Int32
  /-- The class, or `-1` for any. -/
  deviceClass : Int32
  deriving DecidableEq, Inhabited

namespace Selector

/-- The number that leaves a field open. -/
def wildcard : Int32 := -1

/-- Every field open. -/
def any : Selector := ⟨wildcard, wildcard, wildcard⟩

/-- The fields of a selector, in the order in which they are checked. -/
inductive Field where
  | vendor
  | product
  | deviceClass
  deriving DecidableEq

/-- The name of a field in messages. -/
def Field.name : Field → String
  | .vendor => "vendor_id"
  | .product => "product_id"
  | .deviceClass => "device_class"

/-- A number that does not fit its field. -/
structure Misfit where
  field : Field
  value : Int32
  deriving DecidableEq

/-- The value a number gives a field below `bound`: none for the wildcard, a
misfit if the number is neither the wildcard nor below the bound. -/
def checkField (field : Field) (bound : Nat) (value : Int32) : Except Misfit (Option Nat) :=
  if value = wildcard then
    .ok none
  else if 0 ≤ value.toInt ∧ value.toInt < bound then
    .ok (some value.toInt.toNat)
  else
    .error ⟨field, value⟩

/-- The filter that the numbers stand for, or the first number that does not fit. -/
def check (s : Selector) : Except Misfit Filter := do
  let vendor ← checkField .vendor UInt16.size s.vendor
  let product ← checkField .product UInt16.size s.product
  let deviceClass ← checkField .deviceClass UInt8.size s.deviceClass
  return ⟨vendor.map UInt16.ofNat, product.map UInt16.ofNat, deviceClass.map UInt8.ofNat⟩

/-- A number as written when it does not fit: the hexadecimal of its 32-bit word. -/
def Misfit.text (m : Misfit) : String :=
  m.field.name ++ " out of range: 0x" ++ hex m.value.toUInt32.toNat

/-- The numbers that stand for a filter. -/
def ofFilter (f : Filter) : Selector where
  vendor := (f.vendor.map fun v => Int32.ofNat v.toNat).getD wildcard
  product := (f.product.map fun p => Int32.ofNat p.toNat).getD wildcard
  deviceClass := (f.deviceClass.map fun c => Int32.ofNat c.toNat).getD wildcard

end Selector
end DeviceWatch
