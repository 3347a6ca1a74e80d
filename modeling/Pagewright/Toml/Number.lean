/-
  Numbers of TOML.

  Whole numbers have 64 bits and may be written to the bases two, eight and
  sixteen.  A number with a fraction or an exponent only has to be in range,
  which is decided exactly; a number too far below zero counts as infinite and
  is accepted, one too far above it is not.
-/
import Pagewright.Toml.Scan

namespace Pagewright.Toml

/-! ## Digits -/

/-- The digits in front, which single underscores may part; `between` tells
    that an underscore may follow. -/
def scanDigits (isDigit : Char → Bool) (between : Bool) : Scanner (List Char)
  | [] => if between then some ([], []) else none
  | c :: s =>
    if isDigit c then (scanDigits isDigit true s).map fun r => (c :: r.1, r.2)
    else if c = '_' then if between then scanDigits isDigit false s else none
    else if between then some ([], c :: s)
    else none

/-- Digits that begin with a zero only if there is nothing else. -/
def scanDecimal : Scanner (List Char) := fun s =>
  match s with
  | '0' :: t => some (['0'], t)
  | _ => scanDigits Char.isDigit false s

/-- A sign in front, if there is one: whether it is a minus. -/
def scanSign (s : List Char) : Bool × List Char :=
  match s with
  | '-' :: t => (true, t)
  | '+' :: t => (false, t)
  | _ => (false, s)

/-- The number written by digits to a base. -/
def digitsValue (base : Nat) (ds : List Char) : Nat :=
  ds.foldl (fun n c =>
    base * n +
      (if c.isDigit then c.toNat - 48
        else if c.isLower then c.toNat - 87
        else c.toNat - 55)) 0

/-! ## Whole numbers -/

/-- Whether a character is a digit to base sixteen, in either case. -/
def isHexDigit (c : Char) : Bool :=
  c.isDigit || ('a' ≤ c && c ≤ 'f') || ('A' ≤ c && c ≤ 'F')

/-- The digits of a base other than ten. -/
def scanBased (base : Nat) (isDigit : Char → Bool) : Scanner Int := fun s => do
  let (ds, s) ← scanDigits isDigit false s
  let n := digitsValue base ds
  if n < Nat.pow 2 63 then some (n, s) else none

/-- A whole number. -/
def scanInteger : Scanner Int := fun s =>
  match s with
  | '0' :: 'x' :: t => scanBased 16 isHexDigit t
  | '0' :: 'o' :: t => scanBased 8 (fun c => '0' ≤ c && c ≤ '7') t
  | '0' :: 'b' :: t => scanBased 2 (fun c => c == '0' || c == '1') t
  | _ => do
    let (isNegative, s) := scanSign s
    let (ds, s) ← scanDecimal s
    let n := digitsValue 10 ds
    if isNegative then if n ≤ Nat.pow 2 63 then some (-n, s) else none
    else if n < Nat.pow 2 63 then some (n, s) else none

/-! ## Numbers with a fraction -/

/-- Whether `n · 10^e` is rounded to infinity. -/
def overflows (n : Nat) (e : Int) : Bool :=
  let size : Int := (Nat.toDigits 10 n).length + e
  if n = 0 ∨ size < 300 then false
  else if 400 < size then true
  else if 0 ≤ e then Nat.pow 2 1024 - Nat.pow 2 970 ≤ n * Nat.pow 10 e.toNat
  else (Nat.pow 2 1024 - Nat.pow 2 970) * Nat.pow 10 (-e).toNat ≤ n

/-- The exponent after its letter, if there is one. -/
def scanExponent : Scanner (Option Int) := fun s =>
  match s with
  | c :: t =>
    if c = 'e' ∨ c = 'E' then do
      let (isNegative, t) := scanSign t
      let (ds, t) ← scanDigits Char.isDigit false t
      let e : Int := digitsValue 10 ds
      some (some (if isNegative then -e else e), t)
    else some (none, s)
  | [] => some (none, [])

/-- A number with a fraction or an exponent, or one that is not a number at
    all; `none` inside if the text in front is no such number. -/
def scanReal : Scanner (Option Unit) := fun s => do
  let (isNegative, t) := scanSign s
  match t with
  | 'i' :: 'n' :: 'f' :: u => some (some (), u)
  | 'n' :: 'a' :: 'n' :: u => some (some (), u)
  | _ =>
    match scanDecimal t with
    | none => some (none, s)
    | some (whole, u) =>
      let (fraction, u) ← match u with
        | '.' :: v => scanDigits Char.isDigit false v
        | _ => some ([], u)
      let (exponent, u) ← scanExponent u
      if fraction.isEmpty && exponent.isNone then some (none, s)
      else
        let e := exponent.getD 0 - fraction.length
        if !isNegative && overflows (digitsValue 10 (whole ++ fraction)) e then none
        else some (some (), u)

end Pagewright.Toml
