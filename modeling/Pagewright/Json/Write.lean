/-
  JSON without blanks.

  Quotes, backslashes and controls are escaped, by a letter where there is
  one; every other character stands for itself.
-/
import Pagewright.Text.Quoted

namespace Pagewright.Json

/-- How a character is written inside a text. -/
def writeChar (c : Char) : List Char :=
  if c = '"' then ['\\', '"']
  else if c = '\\' then ['\\', '\\']
  else if c = '\x08' then ['\\', 'b']
  else if c = '\x0c' then ['\\', 'f']
  else if c = '\n' then ['\\', 'n']
  else if c = '\r' then ['\\', 'r']
  else if c = '\t' then ['\\', 't']
  else if c.toNat < 0x20 then
    ['\\', 'u', '0', '0', Text.hexDigit (c.toNat / 16), Text.hexDigit (c.toNat % 16)]
  else [c]

/-- A text as it is written. -/
def writeString (s : String) : String :=
  "\"" ++ String.ofList (s.toList.flatMap writeChar) ++ "\""

/-- A list of values that are written already. -/
def writeList (values : List String) : String := "[" ++ ",".intercalate values ++ "]"

/-- A list of texts. -/
def writeStrings (ss : List String) : String := writeList (ss.map writeString)

/-- An object of values that are written already, under their names. -/
def writeObject (members : List (String × String)) : String :=
  "\x7b" ++ ",".intercalate (members.map fun m => writeString m.1 ++ ":" ++ m.2) ++ "\x7d"

/-- A flag. -/
def writeBool (b : Bool) : String := if b then "true" else "false"

end Pagewright.Json
