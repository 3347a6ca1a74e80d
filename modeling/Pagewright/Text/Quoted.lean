/-
  Texts shown between double quotes in messages.

  Quotes, backslashes and the usual controls are written by a backslash and a
  letter, any other character that cannot be shown by its number in braces;
  a list of texts is shown in brackets, separated by commas.
-/
import Pagewright.Text.Basic
import Pagewright.Text.UnprintableTable

namespace Pagewright.Text

/-- A digit below sixteen, in lower case. -/
def hexDigit (n : Nat) : Char :=
  if n < 10 then Char.ofNat (48 + n) else Char.ofNat (87 + n)

/-- The digits of `n` to base sixteen without leading zeros, before `tail`;
    `width` bounds their number. -/
def hexDigits (width n : Nat) (tail : List Char) : List Char :=
  match width with
  | 0 => tail
  | width + 1 =>
    let tail := hexDigit (n % 16) :: tail
    if n < 16 then tail else hexDigits width (n / 16) tail

/-- One character as it is shown between quotes. -/
def quotedChar (c : Char) : List Char :=
  if c = '"' then ['\\', '"']
  else if c = '\\' then ['\\', '\\']
  else if c = '\n' then ['\\', 'n']
  else if c = '\r' then ['\\', 'r']
  else if c = '\t' then ['\\', 't']
  else if c.toNat = 0 then ['\\', '0']
  else if isIn unprintable c then
    ['\\', 'u', '\x7b'] ++ hexDigits 6 c.toNat ['\x7d']
  else [c]

/-- A text between double quotes. -/
def quoted (s : String) : String :=
  "\"" ++ String.ofList (s.toList.flatMap quotedChar) ++ "\""

/-- A list of texts, each between double quotes. -/
def quotedList (ss : List String) : String :=
  "[" ++ ", ".intercalate (ss.map quoted) ++ "]"

end Pagewright.Text
