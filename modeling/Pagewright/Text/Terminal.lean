/-
  Texts shown on a terminal.

  A terminal takes some control characters as commands.  In the log they are
  spelled by their number instead (`inert`), so that a text from outside cannot
  act on the terminal; other characters, line feeds and tabs included, stay.
-/
import Pagewright.Text.Quoted

namespace Pagewright.Text

/-- The control characters of ASCII with which a command to a terminal begins,
    or that are one. -/
def commandChars : List Char := ['\x07', '\x08', '\x0c', '\x1b', '\x7f']

/-- The controls of eight bits. -/
def isHighControl (c : Char) : Bool := 0x80 ≤ c.toNat && c.toNat ≤ 0x9F

/-- One character as the log shows it. -/
def inertChar (c : Char) : List Char :=
  if c ∈ commandChars then ['\\', 'x', hexDigit (c.toNat / 16), hexDigit (c.toNat % 16)]
  else if isHighControl c then ['\\', 'u', '\x7b'] ++ hexDigits 2 c.toNat ['\x7d']
  else [c]

/-- A text as the log shows it. -/
def inert (s : String) : String := String.ofList (s.toList.flatMap inertChar)

end Pagewright.Text
