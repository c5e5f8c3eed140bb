/-!
# Numerals

A number as it is written: sign, digits before and after the point, exponent.
Only a plain run of digits counts as a natural number; `1.0`, `1e2` and `-0`
do not. A numeral also tells whether it lies beyond the range of a double,
computed as a reader computes it that collects 64 bits of digits, rounds them
to a double and scales by a rounded power of ten.
-/

namespace DeviceWatch.Json

/-- A number as it is written. -/
structure Numeral where
  /-- Whether there is a minus sign. -/
  negative : Bool := false
  whole : List Nat
  /-- The digits after the point; empty if there is no point. -/
  fraction : List Nat := []
  /-- The exponent's sign and digits, if there is one. -/
  exponent : Option (Bool × List Nat) := none
  deriving DecidableEq, Inhabited

/-- The number that decimal digits stand for. -/
def ofDigits (digits : List Nat) : Nat :=
  digits.foldl (fun n d => 10 * n + d) 0

/-- The value of a digit. -/
def digitValue (c : Char) : Nat :=
  c.toNat - '0'.toNat

/-- The digit with a value. -/
def digitChar (d : Nat) : Char :=
  Char.ofNat ('0'.toNat + d)

/-- A number rounded to the nearest with at most 53 significant bits; a tie
goes to the even neighbour. -/
def roundToDouble (n : Nat) : Nat :=
  let bits := n.log2 + 1
  if bits ≤ 53 then
    n
  else
    let unit := Nat.pow 2 (bits - 53)
    let q := n / unit
    let twice := 2 * (n % unit)
    if unit < twice || (twice == unit && q % 2 == 1) then (q + 1) * unit else q * unit

/-- The least number that rounds beyond the greatest double. -/
def doubleLimit : Nat :=
  (Nat.pow 2 54 - 1) * Nat.pow 2 970

namespace Numeral

/-- The natural number that a plain run of digits stands for. -/
def nat? (n : Numeral) : Option Nat :=
  if n.negative || !n.fraction.isEmpty || n.exponent.isSome then none else some (ofDigits n.whole)

/-- The plain run of digits of a natural number. -/
def ofNat (n : Nat) : Numeral :=
  { whole := (Nat.toDigits 10 n).map digitValue }

/-- Digits collected into 64 bits, with the power of ten they are to be
scaled by. -/
structure Significand where
  value : Nat := 0
  scale : Int := 0
  /-- Whether a digit was left out. -/
  full : Bool := false

/-- Whether another digit fits into 64 bits. -/
def Significand.fits (s : Significand) (d : Nat) : Bool :=
  !s.full && s.value * 10 + d < UInt64.size

/-- Collects a digit before the point; one that does not fit counts only
towards the scale. -/
def Significand.addWhole (s : Significand) (d : Nat) : Significand :=
  if s.fits d then { s with value := s.value * 10 + d }
  else { s with scale := s.scale + 1, full := true }

/-- Collects a digit after the point; one that does not fit, and all after it,
are dropped. -/
def Significand.addFraction (s : Significand) (d : Nat) : Significand :=
  if s.fits d then { s with value := s.value * 10 + d, scale := s.scale - 1 }
  else { s with full := true }

/-- The digits of a numeral collected into 64 bits, with its exponent. -/
def significand (n : Numeral) : Significand :=
  let whole := n.whole.foldl Significand.addWhole {}
  let all := n.fraction.foldl Significand.addFraction { whole with full := false }
  match n.exponent with
  | none => all
  | some (negative, digits) =>
    let e : Int := ofDigits digits
    { all with scale := if negative then all.scale - e else all.scale + e }

/-- Whether a numeral lies beyond the range of a double. -/
def overflows (n : Numeral) : Bool :=
  let s := n.significand
  if s.value = 0 || s.scale < 0 then
    false
  else if 308 < s.scale then
    true
  else
    doubleLimit ≤ roundToDouble s.value * roundToDouble (Nat.pow 10 s.scale.toNat)

end Numeral
end DeviceWatch.Json
