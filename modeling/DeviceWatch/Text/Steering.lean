import DeviceWatch.Text.Quoted
/-!
# Characters that steer a terminal

A terminal obeys some control characters instead of showing them: the bell,
the backspace, the form feed, the escape, the delete, and the controls from
U+0080 to U+009F. Texts that come from outside are shown with these spelt
out, so that no name of a device can steer the terminal of whoever reads a
report. All other characters stay, line breaks among them.
-/

namespace DeviceWatch.Text

/-- The controls of one byte that steer a terminal. -/
def steeringBytes : List Char :=
  ['\x07', '\x08', '\x0c', '\x1b', '\x7f']

/-- Whether a character is a control that takes more than one byte. -/
def isWideControl (c : Char) : Bool :=
  0x80 ≤ c.toNat && c.toNat ≤ 0x9F

/-- The spelling of a character, if it steers a terminal; otherwise itself. -/
def tamedChar (c : Char) : List Char :=
  if steeringBytes.contains c then '\\' :: 'x' :: (hexFilled 2 c.toNat).toList
  else if isWideControl c then codePoint c
  else [c]

/-- A text in which nothing steers a terminal. -/
def tamed (s : String) : String :=
  String.ofList (s.toList.flatMap tamedChar)

end DeviceWatch.Text
