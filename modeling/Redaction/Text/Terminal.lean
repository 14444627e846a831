import Redaction.Text.Quoted

/-!
# Text for a terminal

A line that is meant for a terminal must not steer it. The control characters on which a terminal
acts are written out: those of ASCII by two hexadecimal digits, those of the second control block by
their code point. All other characters stay, line ends and tabs among them.
-/

namespace Redaction.Text.Terminal

/-- The bell, the backspace, the form feed, the escape and the delete character. -/
def asciiControls : List Char := ['\x07', '\x08', '\x0c', '\x1b', '\x7f']

/-- A control character between ASCII and the letters of Latin 1. -/
def isUpperControl (c : Char) : Bool := 0x80 ≤ c.toNat && c.toNat < 0xA0

/-- Two hexadecimal digits of an ASCII character. -/
def byteEscape (c : Char) : List Char :=
  ['\\', 'x', Nat.digitChar (c.toNat / 16), Nat.digitChar (c.toNat % 16)]

/-- What is shown for a character. -/
def escape (c : Char) : List Char :=
  if asciiControls.contains c then byteEscape c
  else if isUpperControl c then Quoted.codeEscape c
  else [c]

/-- **A text as a terminal shows it.** -/
def shown (s : String) : String := String.ofList (s.toList.flatMap escape)

end Redaction.Text.Terminal
