import DeviceWatch.Codec.Basic
import DeviceWatch.Ports
/-!
# Port listings as JSON

A listing is an array of ports, or a text that says why there is none. A port
has a name and may have a type, the vendor and the product behind it as
numbers, a serial number, and the words by which its device calls itself. A
port without a type is a USB port; a field that is `null` counts as missing.
-/

namespace DeviceWatch

open Json

/-- The port that a value stands for. -/
def ListedPort.ofJson? (v : Json) : Option ListedPort := do
  let fields ← v.fields? 6
  let name ← fields.required? 0 "name" asText?
  let type ← fields.optional? 1 "type" (asOptional? asText?) none
  let vendor ← fields.optional? 2 "vid" (asOptional? asWord16?) none
  let product ← fields.optional? 3 "pid" (asOptional? asWord16?) none
  let serial ← fields.optional? 4 "serial" (asOptional? asText?) none
  let productName ← fields.optional? 5 "product" (asOptional? asText?) none
  let kind : PortKind :=
    if type.getD "usb" = "usb" then .usb (vendor.getD 0) (product.getD 0) serial productName
    else .other
  return { name, kind }

/-- The listing that a value stands for. -/
def Listing.ofJson? : Json → Option Listing
  | .string reason => reason.map fun reason => .error ⟨reason⟩
  | v => (v.asList? ListedPort.ofJson?).map .ok

end DeviceWatch
