/-
  Dates and times of TOML.

  * a date has a day that its month has;
  * a time may end in a fraction of a second, and after a date also in an
    offset.
-/
import Pagewright.Toml.Scan

namespace Pagewright.Toml

/-- The number written by exactly `n` digits, if it lies between two bounds. -/
def scanFixed (n low high : Nat) : Scanner Nat := fun s =>
  let ds := s.take n
  let v := ds.foldl (fun v c => 10 * v + (c.toNat - 48)) 0
  if ds.length = n ∧ ds.all Char.isDigit ∧ low ≤ v ∧ v ≤ high then some (v, s.drop n) else none

/-- What is left after one given character. -/
def passChar (c : Char) : List Char → Option (List Char)
  | [] => none
  | d :: s => if d = c then some s else none

/-- How many days a month has. -/
def daysIn (year month : Nat) : Nat :=
  if month = 2 then
    if year % 4 = 0 ∧ (year % 100 ≠ 0 ∨ year % 400 = 0) then 29 else 28
  else if month = 4 ∨ month = 6 ∨ month = 9 ∨ month = 11 then 30
  else 31

/-- What is left after a date. -/
def passDate (s : List Char) : Option (List Char) := do
  let (year, s) ← scanFixed 4 0 9999 s
  let s ← passChar '-' s
  let (month, s) ← scanFixed 2 1 12 s
  let s ← passChar '-' s
  let (_, s) ← scanFixed 2 1 (daysIn year month) s
  some s

/-- What is left after a time. -/
def passTime (s : List Char) : Option (List Char) := do
  let (_, s) ← scanFixed 2 0 23 s
  let s ← passChar ':' s
  let (_, s) ← scanFixed 2 0 59 s
  let s ← passChar ':' s
  let (_, s) ← scanFixed 2 0 60 s
  match s with
  | '.' :: t =>
    if (t.takeWhile Char.isDigit).isEmpty then some s else some (t.dropWhile Char.isDigit)
  | _ => some s

/-- What is left after an offset, if one stands in front. -/
def passOffset (s : List Char) : Option (List Char) :=
  match s with
  | c :: t =>
    if c = 'Z' ∨ c = 'z' then some t
    else if c = '+' ∨ c = '-' then do
      let (_, t) ← scanFixed 2 0 23 t
      let t ← passChar ':' t
      let (_, t) ← scanFixed 2 0 59 t
      some t
    else some s
  | [] => some s

/-- What is left after the time that may follow a date.  A blank in between
    counts only if a time follows. -/
def passTimeOfDate (s : List Char) : Option (List Char) :=
  match s with
  | c :: t =>
    if c = 'T' ∨ c = 't' ∨ c = ' ' then
      match passTime t with
      | some u => passOffset u
      | none => some s
    else some s
  | [] => some s

/-- What is left after a date, a time, or both. -/
def passMoment (s : List Char) : Option (List Char) :=
  match passDate s with
  | some t => passTimeOfDate t
  | none => passTime s

end Pagewright.Toml
