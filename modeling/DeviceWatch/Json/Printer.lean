import DeviceWatch.Json.Value
import DeviceWatch.Text.Digits
/-!
# Writing JSON

The compact form of a value: no blanks, and in a text only the quote, the
backslash and the control characters below the space are escaped.
-/

namespace DeviceWatch.Json
namespace Printer

/-- The written form of a character within a text. -/
def char (c : Char) : List Char :=
  match c with
  | '"' => ['\\', '"']
  | '\\' => ['\\', '\\']
  | '\x08' => ['\\', 'b']
  | '\x0c' => ['\\', 'f']
  | '\n' => ['\\', 'n']
  | '\r' => ['\\', 'r']
  | '\t' => ['\\', 't']
  | c =>
    if c.toNat < 0x20 then
      '\\' :: 'u' :: (Text.hexFilled 4 c.toNat).toList
    else
      [c]

/-- The written form of a text; one that names no string is half a surrogate
pair. -/
def text (s : Option String) : List Char :=
  match s with
  | some s => '"' :: s.toList.flatMap char ++ ['"']
  | none => "\"\\ud800\"".toList

/-- The written form of a number. -/
def numeral (n : Numeral) : List Char :=
  let sign := if n.negative then ['-'] else []
  let fraction := if n.fraction.isEmpty then [] else '.' :: n.fraction.map digitChar
  let exponent :=
    match n.exponent with
    | none => []
    | some (negative, digits) => 'e' :: (if negative then ['-'] else []) ++ digits.map digitChar
  sign ++ n.whole.map digitChar ++ fraction ++ exponent

mutual

/-- The written form of a value. -/
def value : Json → List Char
  | .null => ['n', 'u', 'l', 'l']
  | .bool true => ['t', 'r', 'u', 'e']
  | .bool false => ['f', 'a', 'l', 's', 'e']
  | .number n => numeral n
  | .string s => text s
  | .array [] => ['[', ']']
  | .array (v :: rest) => '[' :: value v ++ items rest ++ [']']
  | .object [] => ['\x7b', '\x7d']
  | .object ((key, v) :: rest) =>
    '\x7b' :: text key ++ ':' :: value v ++ members rest ++ ['\x7d']

/-- The written form of the items after the first. -/
def items : List Json → List Char
  | [] => []
  | v :: rest => ',' :: value v ++ items rest

/-- The written form of the members after the first. -/
def members : List (Option String × Json) → List Char
  | [] => []
  | (key, v) :: rest => ',' :: text key ++ ':' :: value v ++ members rest

end

end Printer

/-- The compact form of a value. -/
def render (v : Json) : String :=
  String.ofList (Printer.value v)

end DeviceWatch.Json
