/-!
# Digits

Numbers in decimal and in lower-case hexadecimal, with or without leading
zeros up to a width.
-/

namespace DeviceWatch.Text

/-- A number in decimal. -/
def decimal (n : Nat) : String :=
  String.ofList (Nat.toDigits 10 n)

/-- A number in lower-case hexadecimal, without leading zeros. -/
def hex (n : Nat) : String :=
  String.ofList (Nat.toDigits 16 n)

/-- Digits with leading zeros up to a width; longer numbers keep all their digits. -/
def zeroFilled (width : Nat) (digits : List Char) : String :=
  String.ofList (List.replicate (width - digits.length) '0' ++ digits)

/-- A number in decimal with at least `width` digits. -/
def decimalFilled (width n : Nat) : String :=
  zeroFilled width (Nat.toDigits 10 n)

/-- A number in lower-case hexadecimal with at least `width` digits. -/
def hexFilled (width n : Nat) : String :=
  zeroFilled width (Nat.toDigits 16 n)

/-- An integer in decimal, with a minus sign if it is negative. -/
def signedDecimal (i : Int) : String :=
  match i with
  | .ofNat n => decimal n
  | .negSucc n => "-" ++ decimal (n + 1)

end DeviceWatch.Text
