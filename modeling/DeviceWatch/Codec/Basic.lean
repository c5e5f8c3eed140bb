import DeviceWatch.Json.Value
/-!
# Reading values of a known shape

Values of a known shape are read from JSON values. A composite may be an
object, with its fields under their names in any order, or an array of its
fields in their proper order. In an object unknown keys are ignored and a
known key must not be repeated; in an array fields may be missing at the end.
What a missing field stands for is said field by field.

A reader answers `none` for a value that it refuses.
-/

namespace DeviceWatch.Json

/-- The truth value that a value stands for. -/
def asBool? : Json → Option Bool
  | .bool b => some b
  | _ => none

/-- The text that a value stands for. -/
def asText? : Json → Option String
  | .string s => s
  | _ => none

/-- The natural number below a bound that a value stands for. -/
def asNatBelow? (bound : Nat) : Json → Option Nat
  | .number n => n.nat?.filter (· < bound)
  | _ => none

/-- The byte that a value stands for. -/
def asByte? (v : Json) : Option UInt8 :=
  (v.asNatBelow? UInt8.size).map UInt8.ofNat

/-- The 16-bit word that a value stands for. -/
def asWord16? (v : Json) : Option UInt16 :=
  (v.asNatBelow? UInt16.size).map UInt16.ofNat

/-- The 64-bit word that a value stands for. -/
def asWord64? (v : Json) : Option UInt64 :=
  (v.asNatBelow? UInt64.size).map UInt64.ofNat

/-- The list that a value stands for, each item read alike. -/
def asList? {α : Type} (read : Json → Option α) : Json → Option (List α)
  | .array items => items.mapM read
  | _ => none

/-- What a value stands for that may be `null`. -/
def asOptional? {α : Type} (read : Json → Option α) : Json → Option (Option α)
  | .null => some none
  | v => (read v).map some

/-- A byte as a value. -/
def ofByte (b : UInt8) : Json :=
  .nat b.toNat

/-- A 16-bit word as a value. -/
def ofWord16 (w : UInt16) : Json :=
  .nat w.toNat

/-- A 64-bit word as a value. -/
def ofWord64 (w : UInt64) : Json :=
  .nat w.toNat

/-- A value that may be missing, as a value. -/
def ofOptional {α : Type} (write : α → Json) : Option α → Json
  | none => .null
  | some a => write a

/-- A composite value whose fields are still to be read. -/
inductive Fields where
  | named (members : List (String × Json))
  | listed (items : List Json)

/-- The keys of an object with their values, if every key names a string. -/
def plainMembers? (members : List (Option String × Json)) : Option (List (String × Json)) :=
  members.mapM fun (key, v) => key.map (·, v)

/-- The fields of a composite value that has at most `count` of them. -/
def fields? (count : Nat) : Json → Option Fields
  | .object members => (plainMembers? members).map .named
  | .array items => if items.length ≤ count then some (.listed items) else none
  | _ => none

namespace Fields

/-- The value given for a field, where `none` within stands for a missing one. -/
def value? (fields : Fields) (place : Nat) (name : String) : Option (Option Json) :=
  match fields with
  | .listed items => some items[place]?
  | .named members =>
    match members.filter fun member => member.1 == name with
    | [] => some none
    | [(_, v)] => some (some v)
    | _ => none

/-- A field that must not be missing. -/
def required? {α : Type} (fields : Fields) (place : Nat) (name : String)
    (read : Json → Option α) : Option α := do
  let v ← (← fields.value? place name)
  read v

/-- A field that stands for a default if it is missing. -/
def optional? {α : Type} (fields : Fields) (place : Nat) (name : String)
    (read : Json → Option α) (default : α) : Option α := do
  match ← fields.value? place name with
  | none => return default
  | some v => read v

end Fields
end DeviceWatch.Json
