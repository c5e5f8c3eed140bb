import DeviceWatch.Text.Digits
import DeviceWatch.Text.Extending
import DeviceWatch.Text.Unprintable
/-!
# Quoted text

Names in messages stand in quotes. Quotes and backslashes get a backslash in
front, and what would not show as a mark of its own is spelt out by its code
point, so that two names that differ look different.
-/

namespace DeviceWatch.Text

/-- The spelling of a character by its code point. -/
def codePoint (c : Char) : List Char :=
  "\\u\x7b".toList ++ Nat.toDigits 16 c.toNat ++ ['\x7d']

/-- The spelling of a character within quotes. -/
def quotedChar (c : Char) : List Char :=
  match c with
  | '\x00' => ['\\', '0']
  | '\t' => ['\\', 't']
  | '\r' => ['\\', 'r']
  | '\n' => ['\\', 'n']
  | '\\' => ['\\', '\\']
  | '"' => ['\\', '"']
  | c => if isExtending c || isUnprintable c then codePoint c else [c]

/-- A text in quotes. -/
def quoted (s : String) : String :=
  String.ofList ('"' :: s.toList.flatMap quotedChar ++ ['"'])

end DeviceWatch.Text
