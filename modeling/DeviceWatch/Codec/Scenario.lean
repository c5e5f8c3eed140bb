import DeviceWatch.Codec.Device
import DeviceWatch.Json.Printer
import DeviceWatch.Json.Reader
import DeviceWatch.Scenario
/-!
# Scenarios as JSON

A step names its action under the key `action`, which may stand anywhere in
the object, or first in the array form. Since the action decides how the rest
is read, a step is taken in whole before it is read: its depth is limited, and
every text and number in it, also under unknown keys, must be one.
-/

namespace DeviceWatch

open Json

/-- The number of arrays and objects that may lie within one another where
values are taken in whole. -/
def Step.maxDepth : Nat := 127

/-- A step as a value. -/
def Step.toJson : Step → Json
  | .plug name vendor product deviceClass =>
    .record [("action", .text "plug"), ("name", .text name), ("vendor_id", .ofWord16 vendor),
      ("product_id", .ofWord16 product), ("device_class", .ofByte deviceClass)]
  | .unplug name => .record [("action", .text "unplug"), ("name", .text name)]
  | .openHandle name => .record [("action", .text "open"), ("name", .text name)]
  | .closeHandle name => .record [("action", .text "close"), ("name", .text name)]
  | .transferFailed name => .record [("action", .text "transfer_failed"), ("name", .text name)]
  | .sleep millis => .record [("action", .text "sleep"), ("ms", .ofWord64 millis)]

namespace Step

/-- The action of a step and its other fields, still to be read. -/
def action? : Json → Option (String × Json)
  | .object members => do
    let isAction (member : Option String × Json) : Bool := member.1 == some "action"
    match members.filter isAction with
    | [(_, v)] => return (← v.asText?, .object (members.filter fun m => !isAction m))
    | _ => none
  | .array (v :: rest) => do return (← v.asText?, .array rest)
  | _ => none

/-- A step on a device that goes by a name. -/
def named? (make : String → Step) (v : Json) : Option Step := do
  let fields ← v.fields? 1
  return make (← fields.required? 0 "name" asText?)

/-- The step with an action that the other fields stand for. -/
def ofFields? (action : String) (v : Json) : Option Step :=
  match action with
  | "plug" => do
    let fields ← v.fields? 4
    return .plug
      (← fields.required? 0 "name" asText?)
      (← fields.required? 1 "vendor_id" asWord16?)
      (← fields.required? 2 "product_id" asWord16?)
      (← fields.optional? 3 "device_class" asByte? 0)
  | "unplug" => named? .unplug v
  | "open" => named? .openHandle v
  | "close" => named? .closeHandle v
  | "transfer_failed" => named? .transferFailed v
  | "sleep" => do
    let fields ← v.fields? 1
    return .sleep (← fields.required? 0 "ms" asWord64?)
  | _ => none

/-- The step that a value stands for, which lies within `outer` others. -/
def ofJson? (outer : Nat) (v : Json) : Option Step := do
  guard (outer + v.depth ≤ maxDepth && v.isFaithful)
  let (action, fields) ← action? v
  ofFields? action fields

/-- The step that a text stands for. -/
def parse? (s : String) : Option Step :=
  Json.parse? s >>= ofJson? 0

end Step

/-- A scenario as a value. -/
def Scenario.toJson (s : Scenario) : Json :=
  .record [("description", .text s.description), ("steps", .array (s.steps.map Step.toJson))]

/-- The scenario that a value stands for. -/
def Scenario.ofJson? (v : Json) : Option Scenario := do
  let fields ← v.fields? 2
  return {
    description := ← fields.optional? 0 "description" asText? ""
    steps := ← fields.required? 1 "steps" (asList? (Step.ofJson? 2)) }

/-- The scenario that a text stands for. -/
def Scenario.parse? (s : String) : Option Scenario :=
  Json.parse? s >>= Scenario.ofJson?

end DeviceWatch
