import DeviceWatch.Json.Numeral
/-!
# JSON values

A value as it is written: members in order, a key possibly more than once,
numbers with all their digits. A text whose escapes hold half of a surrogate
pair is well-formed but names no string; it stands as `none`.
-/

namespace DeviceWatch

/-- A JSON value as it is written. -/
inductive Json where
  | null
  | bool (b : Bool)
  | number (n : Json.Numeral)
  /-- A text, or `none` if it has half of a surrogate pair. -/
  | string (s : Option String)
  | array (items : List Json)
  | object (members : List (Option String × Json))
  deriving Inhabited

namespace Json

/-- The value that stands for a text. -/
def text (s : String) : Json :=
  .string (some s)

/-- The value that stands for a natural number. -/
def nat (n : Nat) : Json :=
  .number (.ofNat n)

/-- The value with members under plain keys. -/
def record (members : List (String × Json)) : Json :=
  .object (members.map fun (key, value) => (some key, value))

mutual

/-- The number of arrays and objects that lie within one another. -/
def depth : Json → Nat
  | .array items => depthItems items + 1
  | .object members => depthMembers members + 1
  | _ => 0

/-- The greatest depth of a list of values. -/
def depthItems : List Json → Nat
  | [] => 0
  | v :: rest => max v.depth (depthItems rest)

/-- The greatest depth of a list of members. -/
def depthMembers : List (Option String × Json) → Nat
  | [] => 0
  | (_, v) :: rest => max v.depth (depthMembers rest)

end

mutual

/-- Whether every text within names a string and every number lies in the
range of a double. -/
def isFaithful : Json → Bool
  | .string s => s.isSome
  | .number n => !n.overflows
  | .array items => areFaithful items
  | .object members => membersFaithful members
  | _ => true

/-- Whether every value of a list is faithful. -/
def areFaithful : List Json → Bool
  | [] => true
  | v :: rest => v.isFaithful && areFaithful rest

/-- Whether every member of a list is faithful, its key included. -/
def membersFaithful : List (Option String × Json) → Bool
  | [] => true
  | (key, v) :: rest => key.isSome && v.isFaithful && membersFaithful rest

end

end Json
end DeviceWatch
