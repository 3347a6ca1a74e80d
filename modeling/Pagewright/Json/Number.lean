/-
  Numbers of JSON.

  A number without fraction and exponent is whole as long as it fits 64 bits;
  any other number is real.  The digits of a real number are taken into 64
  bits as far as they fit, the rest only moves the decimal exponent, and the
  exponent is applied by one multiplication or division where a power of ten
  is at hand.
-/
import Pagewright.Json.Scan

namespace Pagewright.Json

/-- A number as a JSON text gives it. -/
inductive Number where
  /-- A number that is not negative. -/
  | natural (n : Nat)
  /-- A number below zero. -/
  | negative (n : Int)
  /-- A number with a fraction, given by its bits. -/
  | real (bits : UInt64)
  deriving DecidableEq, Repr

/-- A number as a message shows it. -/
def Number.found : Number → Found
  | natural n => .integer n
  | negative n => .integer n
  | real bits => .real bits

namespace Number

/-! ## Digits -/

/-- The value of a decimal digit. -/
def digitValue (c : Char) : Nat := c.toNat - 48

/-- Takes digits to the number `n` as long as it stays below `bound`: the
    number, how many were taken, and what is left. -/
def takeDigits (bound n taken : Nat) : List Char → Nat × Nat × List Char
  | [] => (n, taken, [])
  | c :: s =>
    if c.isDigit && 10 * n + digitValue c < bound then
      takeDigits bound (10 * n + digitValue c) (taken + 1) s
    else (n, taken, c :: s)

/-- What is left after leading digits. -/
def skipDigits (s : List Char) : List Char := s.dropWhile Char.isDigit

/-- Whether a text begins with a decimal digit. -/
def beginsWithDigit (s : List Char) : Bool := (s.head?.map Char.isDigit).getD false

/-! ## Real numbers -/

/-- The number `f · 10^e`, unless it is too large.  Exponents beyond the
    largest power of ten are taken in steps. -/
def scale (fuel : Nat) (f : Float) (e : Int) : Option Float :=
  match fuel with
  | 0 => some f
  | fuel + 1 =>
    if e.natAbs ≤ 308 then
      let power := Float.ofScientific 1 false e.natAbs
      if 0 ≤ e then
        let product := f * power
        if product.isInf then none else some product
      else some (f / power)
    else if f == 0.0 then some f
    else if 0 ≤ e then none
    else scale fuel (f / Float.ofScientific 1 false 308) (e + 308)

/-- The real number with given digits and exponent, at the front of `s`. -/
def ofParts (isPositive : Bool) (digits : Nat) (e : Int) : Reader Number := fun s =>
  match scale 4 digits.toUInt64.toFloat e with
  | some f => .ok (.real (if isPositive then f else -f).toBits, s)
  | none => .error ⟨.numberOutOfRange, s, 0⟩

/-- The exponent after its letter. -/
def readExponent (isPositive : Bool) (digits : Nat) (start : Int) : Reader Number := fun s =>
  let isNegative := s.head? = some '-'
  let s := if s.head? = some '-' ∨ s.head? = some '+' then s.tail else s
  match s with
  | [] => .error ⟨.endOfValue, [], 0⟩
  | c :: t =>
    if !c.isDigit then .error ⟨.invalidNumber, c :: t, 1⟩
    else
      let (e, _, left) := takeDigits (Nat.pow 2 31) 0 0 (c :: t)
      if beginsWithDigit left then
        if digits ≠ 0 ∧ !isNegative then .error ⟨.numberOutOfRange, left.tail, 0⟩
        else .ok (.real (if isPositive then 0.0 else -0.0 : Float).toBits, skipDigits left)
      else ofParts isPositive digits (if isNegative then start - e else start + e) left

/-- What may follow the digits: an exponent, or nothing. -/
def readEnd (isPositive : Bool) (digits : Nat) (e : Int) : Reader Number := fun s =>
  match s with
  | c :: t =>
    if c = 'e' ∨ c = 'E' then readExponent isPositive digits e t
    else ofParts isPositive digits e s
  | [] => ofParts isPositive digits e s

/-- The digits after the point. -/
def readFraction (isPositive : Bool) (digits : Nat) (start : Int) : Reader Number := fun s =>
  let (n, taken, left) := takeDigits (Nat.pow 2 64) digits 0 s
  if beginsWithDigit left then readEnd isPositive n (start - taken) (skipDigits left)
  else if taken = 0 then
    .error ⟨if left.isEmpty then .endOfValue else .invalidNumber, left, 1⟩
  else readEnd isPositive n (start - taken) left

/-! ## All numbers -/

/-- A whole number, once neither a point nor an exponent follows. -/
def ofWhole (isPositive : Bool) (digits : Nat) : Number :=
  if isPositive then .natural digits
  else if digits = 0 ∨ Nat.pow 2 63 < digits then .real (-digits.toUInt64.toFloat).toBits
  else .negative (-digits)

/-- Reads a number whose sign has been read. -/
def read (isPositive : Bool) : Reader Number := fun s =>
  match s with
  | [] => .error ⟨.endOfValue, [], 0⟩
  | c :: t =>
    if !c.isDigit then .error ⟨.invalidNumber, c :: t, 1⟩
    else if c = '0' ∧ beginsWithDigit t then .error ⟨.invalidNumber, t, 1⟩
    else
      let (n, _, left) := takeDigits (Nat.pow 2 64) 0 0 (c :: t)
      let beyond := (left.takeWhile Char.isDigit).length
      match skipDigits left with
      | '.' :: u => readFraction isPositive n beyond u
      | u =>
        if beyond ≠ 0 ∨ u.head? = some 'e' ∨ u.head? = some 'E' then readEnd isPositive n beyond u
        else .ok (ofWhole isPositive n, u)

/-- Passes over a number whose sign has been read. -/
def pass (s : List Char) : Except Fault (List Char) :=
  match s with
  | [] => .error ⟨.invalidNumber, [], 0⟩
  | c :: t =>
    if !c.isDigit then .error ⟨.invalidNumber, c :: t, 1⟩
    else if c = '0' ∧ beginsWithDigit t then .error ⟨.invalidNumber, t, 1⟩
    else do
      let u ← match skipDigits (c :: t) with
        | '.' :: v =>
          if beginsWithDigit v then .ok (skipDigits v) else .error ⟨.invalidNumber, v, 1⟩
        | v => .ok v
      match u with
      | [] => .ok u
      | e :: v =>
        if e ≠ 'e' ∧ e ≠ 'E' then .ok u
        else
          let w := if v.head? = some '-' ∨ v.head? = some '+' then v.tail else v
          if beginsWithDigit w then .ok (skipDigits w) else .error ⟨.invalidNumber, w, 1⟩

end Number

end Pagewright.Json
