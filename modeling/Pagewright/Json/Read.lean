/-
  Readers of values of a known type.

  * texts, flags, small numbers, lists, and values that may be null;
  * brackets of typed values are counted: `depth` says how many more may be
    opened, and a document starts with `maxDepth`;
  * a value of another type is refused; scalars are read first, so that the
    message can show them.
-/
import Pagewright.Json.Number

namespace Pagewright.Json

/-- How many brackets of typed values may be open at once. -/
def maxDepth : Nat := 127

/-! ## Values of the wrong type -/

/-- Takes a value for a message.  Brackets are not read. -/
def findValue : Reader Found := fun s =>
  match s with
  | [] => .error ⟨.endOfValue, [], 0⟩
  | c :: t =>
    if c = '[' then .ok (.sequence, s)
    else if c = '\x7b' then .ok (.map, s)
    else if c = '"' then (fun r => (.text r.1, r.2)) <$> scanString t
    else if c = 'n' then (.null, ·) <$> passWord ['u', 'l', 'l'] t
    else if c = 't' then (.boolean true, ·) <$> passWord ['r', 'u', 'e'] t
    else if c = 'f' then (.boolean false, ·) <$> passWord ['a', 'l', 's', 'e'] t
    else if c = '-' then (fun r => (r.1.found, r.2)) <$> Number.read false t
    else if c.isDigit then (fun r => (r.1.found, r.2)) <$> Number.read true s
    else .error ⟨.expectedValue, s, 1⟩

/-- The fault of a value that is not what is wanted. -/
def mismatch (wanted : String) (s : List Char) : Fault :=
  match findValue s with
  | .ok (found, left) => ⟨.wrongType found wanted, left, 0⟩
  | .error f => f

/-! ## Scalars -/

/-- Reads a text. -/
def readString : Reader String := fun s =>
  match skipBlanks s with
  | [] => .error ⟨.endOfValue, [], 0⟩
  | c :: t => if c = '"' then scanString t else .error (mismatch "a string" (c :: t))

/-- Reads a flag. -/
def readBool : Reader Bool := fun s =>
  match skipBlanks s with
  | [] => .error ⟨.endOfValue, [], 0⟩
  | c :: t =>
    if c = 't' then (true, ·) <$> passWord ['r', 'u', 'e'] t
    else if c = 'f' then (false, ·) <$> passWord ['a', 'l', 's', 'e'] t
    else .error (mismatch "a boolean" (c :: t))

/-- Reads nothing, which is written as null. -/
def readUnit : Reader Unit := fun s =>
  match skipBlanks s with
  | [] => .error ⟨.endOfValue, [], 0⟩
  | c :: t =>
    if c = 'n' then ((), ·) <$> passWord ['u', 'l', 'l'] t
    else .error (mismatch "unit" (c :: t))

/-- A number as a value of 32 bits. -/
def Number.toUInt32 (n : Number) : Except Cause UInt32 :=
  match n with
  | .natural n => if n < Nat.pow 2 32 then .ok n.toUInt32 else .error (.outOfRange n "u32")
  | .negative n => .error (.outOfRange n "u32")
  | .real bits => .error (.wrongType (.real bits) "u32")

/-- Reads a number of 32 bits. -/
def readUInt32 : Reader UInt32 := fun s =>
  match skipBlanks s with
  | [] => .error ⟨.endOfValue, [], 0⟩
  | c :: t =>
    if c = '-' ∨ c.isDigit then do
      let (n, t) ← if c = '-' then Number.read false t else Number.read true (c :: t)
      match n.toUInt32 with
      | .ok n => .ok (n, t)
      | .error cause => .error ⟨cause, t, 0⟩
    else .error (mismatch "u32" (c :: t))

/-- Reads a value, or null for none. -/
def readOption {α : Type} (r : Reader α) : Reader (Option α) := fun s =>
  match skipBlanks s with
  | c :: t =>
    if c = 'n' then (none, ·) <$> passWord ['u', 'l', 'l'] t
    else (fun v => (some v.1, v.2)) <$> r (c :: t)
  | [] => (fun v => (some v.1, v.2)) <$> r []

/-! ## Lists -/

/-- Reads the elements of a list whose bracket has been read. -/
def readElements {α : Type} (r : Reader α) (first : Bool) : Nat → Reader (List α)
  | 0, s => .error ⟨.tooDeep, s, 0⟩
  | fuel + 1, s => do
    match ← nextElement first s with
    | .done s => .ok ([], s)
    | .more s =>
      let (v, s) ← r s
      let (vs, s) ← readElements r false fuel s
      .ok (v :: vs, s)

/-- Reads a list.  Its elements may open one bracket less than the list. -/
def readList {α : Type} (depth : Nat) (r : Nat → Reader α) : Reader (List α) := fun s =>
  match skipBlanks s with
  | [] => .error ⟨.endOfValue, [], 0⟩
  | c :: t =>
    if c = '[' then
      match depth with
      | 0 => .error ⟨.tooDeep, c :: t, 1⟩
      | depth + 1 => readElements (r depth) true (t.length + 1) t
    else .error (mismatch "a sequence" (c :: t))

/-- Reads a list of texts. -/
def readStrings (depth : Nat) : Reader (List String) := readList depth fun _ => readString

/-! ## Maps -/

/-- Reads the entries of a map whose bracket has been read, adding each to what
    has been read before. -/
def readEntries {σ : Type} (insert : σ → String → String → σ) (first : Bool) : Nat → σ → Reader σ
  | 0, _, s => .error ⟨.tooDeep, s, 0⟩
  | fuel + 1, acc, s => do
    match ← nextKey first s with
    | .done s => .ok (acc, s)
    | .more s =>
      let (k, s) ← scanString s
      let s ← passColon s
      let (v, s) ← readString s
      readEntries insert false fuel (insert acc k v) s

/-- Reads a map from texts to texts. -/
def readMap {σ : Type} (depth : Nat) (empty : σ) (insert : σ → String → String → σ) : Reader σ :=
  fun s =>
    match skipBlanks s with
    | [] => .error ⟨.endOfValue, [], 0⟩
    | c :: t =>
      if c = '\x7b' then
        match depth with
        | 0 => .error ⟨.tooDeep, c :: t, 1⟩
        | _ + 1 => readEntries insert true (t.length + 1) empty t
      else .error (mismatch "a map" (c :: t))

/-! ## Variants -/

/-- One of some named variants. -/
def variant {α : Type} (variants : List (String × α)) : Reader α := fun s => do
  let (name, s) ← scanString s
  match variants.lookup name with
  | some v => .ok (v, s)
  | none => .error ⟨.unknownVariant name (variants.map (·.1)), s, 0⟩

/-- Reads a variant: its name, or an object that has null under its name. -/
def readVariant {α : Type} (depth : Nat) (variants : List (String × α)) : Reader α := fun s =>
  match skipBlanks s with
  | [] => .error ⟨.endOfValue, [], 0⟩
  | c :: t =>
    if c = '"' then variant variants t
    else if c ≠ '\x7b' then .error ⟨.expectedValue, c :: t, 1⟩
    else if depth = 0 then .error ⟨.tooDeep, c :: t, 1⟩
    else do
      match ← nextKey true t with
      | .done _ => .error ⟨.expectedValue, skipBlanks t, 1⟩
      | .more u =>
        let (v, u) ← variant variants u
        let u ← passColon u
        let ((), u) ← readUnit u
        match skipBlanks u with
        | [] => .error ⟨.endOfObject, [], 0⟩
        | d :: w => if d = '\x7d' then .ok (v, w) else .error ⟨.expectedValue, d :: w, 0⟩

/-! ## Documents -/

/-- Reads a whole text as one value. -/
def readDocument {α : Type} (r : Reader α) (source : List Char) : Except Fault α := do
  let (v, s) ← r source
  match skipBlanks s with
  | [] => .ok v
  | c :: t => .error ⟨.trailingCharacters, c :: t, 1⟩

end Pagewright.Json
