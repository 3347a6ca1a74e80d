/-
  The shortest decimal text of a real number given by its 64 bits.

  * `Binary` is a number `m · 2^q`; a decimal reads back as it if it lies in
    the interval of half a step to either side, whose ends count when `m` is
    even;
  * `digits` takes the least number of digits with which a decimal reads back,
    of those decimals the nearest, and of two that are as near the even one;
  * `text` writes them out, positionally when the leading digit stands between
    the fifth place after the point and the sixteenth before it.
-/

namespace Pagewright.Real

/-! ## Decimals near a binary number -/

/-- The number `m · 2^q`; `narrow` tells that the step below it is half the
    step above it. -/
structure Binary where
  m : Nat
  q : Int
  narrow : Bool

/-- The magnitude of a finite number given by its bits. -/
def Binary.ofBits (bits : UInt64) : Binary :=
  let fraction : Nat := bits.toNat % Nat.pow 2 52
  let exponent : Nat := bits.toNat / Nat.pow 2 52 % Nat.pow 2 11
  if exponent = 0 then ⟨fraction, -1074, false⟩
  else ⟨Nat.pow 2 52 + fraction, (exponent : Int) - 1075, fraction = 0 && 1 < exponent⟩

namespace Binary

variable (b : Binary)

/-- Compares quarters of the last place with a decimal: the two numbers are
    `quarters · 2^(q-2)` and `d · 10^k`, brought to a common denominator. -/
def scaled (quarters d : Nat) (k : Int) : Nat × Nat :=
  (quarters * Nat.pow 2 (b.q - 2).toNat * Nat.pow 10 (-k).toNat,
    d * Nat.pow 10 k.toNat * Nat.pow 2 (2 - b.q).toNat)

/-- Whether `d · 10^k` reads back as `b`. -/
def contains (d : Nat) (k : Int) : Bool :=
  let low := b.scaled (4 * b.m - if b.narrow then 1 else 2) d k
  let high := b.scaled (4 * b.m + 2) d k
  if b.m % 2 = 0 then low.1 ≤ low.2 && high.2 ≤ high.1 else low.1 < low.2 && high.2 < high.1

/-- The multiple of `10^k` next to `b` from below. -/
def floorAt (k : Int) : Nat :=
  let s := b.scaled (4 * b.m) 1 k
  s.1 / s.2

/-- Of the two multiples of `10^k` next to `b`, the nearest that reads back as
    `b`; of two that are as near, the even one. -/
def candidate? (k : Int) : Option Nat :=
  let d := b.floorAt k
  let below := b.scaled (4 * b.m) d k
  let above := b.scaled (4 * b.m) (d + 1) k
  match b.contains d k, b.contains (d + 1) k with
  | true, true =>
    let down := below.1 - below.2
    let up := above.2 - above.1
    some (if down < up || (down = up && d % 2 = 0) then d else d + 1)
  | true, false => some d
  | false, true => some (d + 1)
  | false, false => none

/-- The least `e` from `e` up with `b` below `10^(e+1)`; `fuel` bounds the
    search. -/
def magnitude (fuel : Nat) (e : Int) : Int :=
  match fuel with
  | 0 => e
  | fuel + 1 => if b.floorAt (e + 1) = 0 then e else magnitude fuel (e + 1)

/-- The first of the grids, from coarse to fine, on which a multiple reads back
    as `b`: the multiple and the exponent of the grid. -/
def firstGrid (k : Int) : Nat → Nat × Int
  | 0 => (b.floorAt k, k)
  | n + 1 =>
    match b.candidate? k with
    | some d => (d, k)
    | none => firstGrid (k - 1) n

/-- The digits of the shortest decimal that reads back as `b`, and the exponent
    of the last. -/
def digits : Nat × Int := b.firstGrid (b.magnitude 700 (-330)) 17

end Binary

/-! ## Texts -/

/-- A decimal with `n` digits before the point or, below one, with zeros after
    it. -/
def positional (ds : List Char) (e : Int) : List Char :=
  if e < 0 then "0.".toList ++ List.replicate (-e - 1).toNat '0' ++ ds
  else
    let n := e.toNat + 1
    if ds.length ≤ n then ds ++ List.replicate (n - ds.length) '0' ++ ".0".toList
    else ds.take n ++ '.' :: ds.drop n

/-- A decimal with one digit before the point, and its exponent with a sign. -/
def scientific (ds : List Char) (e : Int) : List Char :=
  ds.take 1 ++ (if ds.length ≤ 1 then [] else '.' :: ds.drop 1) ++
    ['e', if e < 0 then '-' else '+'] ++ Nat.toDigits 10 e.natAbs

/-- The text of a finite number given by its bits. -/
def text (bits : UInt64) : String :=
  let sign := if bits.toNat / Nat.pow 2 63 = 0 then "" else "-"
  let b := Binary.ofBits bits
  if b.m = 0 then sign ++ "0.0"
  else
    let (d, k) := b.digits
    let all := Nat.toDigits 10 d
    let e := k + all.length - 1
    let ds := (all.reverse.dropWhile (· == '0')).reverse
    sign ++ String.ofList (if -5 ≤ e ∧ e ≤ 15 then positional ds e else scientific ds e)

end Pagewright.Real
