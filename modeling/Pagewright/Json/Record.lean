/-
  Records: values with named fields.

  * a record is written as an object of its fields, in any order and with
    unknown fields between them, or as a list of them in the order of their
    declaration;
  * `Record` describes the fields, `Record.reader` reads either form;
  * a field that is missing is an error where the description says so, and a
    field may not be given twice.
-/
import Pagewright.Json.Read
import Pagewright.Json.Skip

namespace Pagewright.Json

/-- Whether a field may be left out. -/
inductive Presence where
  /-- It must be there. -/
  | required
  /-- It may be missing in an object, but not in a list. -/
  | optional
  /-- It may be missing in an object, and at the end of a list. -/
  | defaulted
  deriving DecidableEq, Repr

/-- The description of a record that is read into a `σ`. -/
structure Record (φ σ : Type) where
  /-- The name of the record in messages. -/
  name : String
  /-- The fields, in the order of their declaration. -/
  fields : List φ
  label : φ → String
  presence : φ → Presence
  /-- What the record is before any field has been read. -/
  blank : σ
  /-- Reads the value of a field into the record. -/
  read : φ → σ → Reader σ

namespace Record

variable {φ σ : Type} [DecidableEq φ] (r : Record φ σ)

/-! ## Objects -/

/-- The field with a given label. -/
def field? (label : String) : Option φ := r.fields.find? fun f => r.label f == label

/-- The first field that must be there and is not. -/
def missing? (seen : List φ) : Option φ :=
  r.fields.find? fun f => r.presence f = .required && f ∉ seen

/-- Where a field that is given twice is reported: behind the blanks after its
    label, and behind the brace that may stand there. -/
def behindKey (s : List Char) : List Char :=
  match skipBlanks s with
  | '\x7d' :: t => t
  | t => t

/-- Reads the fields of an object whose brace has been read, those in `seen`
    having been read before. -/
def readFields (first : Bool) : Nat → List φ → σ → Reader σ
  | 0, _, _, s => .error ⟨.tooDeep, s, 0⟩
  | fuel + 1, seen, v, s => do
    match ← nextKey first s with
    | .done s =>
      match r.missing? seen with
      | some f => .error ⟨.missingField (r.label f), s, 0⟩
      | none => .ok (v, s)
    | .more s =>
      let (label, s) ← scanString s
      match r.field? label with
      | none =>
        let s ← passColon s
        let s ← passValue s
        readFields false fuel seen v s
      | some f =>
        if f ∈ seen then .error ⟨.duplicateField label, behindKey s, 0⟩
        else
          let s ← passColon s
          let (v, s) ← r.read f v s
          readFields false fuel (f :: seen) v s

/-! ## Lists -/

/-- The end of a list that has all its fields. -/
def passListEnd (s : List Char) : Except Fault (List Char) :=
  match skipBlanks s with
  | [] => .error ⟨.endOfList, [], 0⟩
  | c :: t =>
    if c = ']' then .ok t
    else if c = ',' then
      match skipBlanks t with
      | ']' :: u => .error ⟨.trailingComma, ']' :: u, 1⟩
      | u => .error ⟨.trailingCharacters, u, 1⟩
    else .error ⟨.trailingCharacters, c :: t, 1⟩

/-- Reads fields from a list whose bracket has been read, `i` of them having
    been read before. -/
def readItems (first : Bool) (i : Nat) : List φ → σ → Reader σ
  | [], v, s => (v, ·) <$> passListEnd s
  | f :: fs, v, s => do
    match ← nextElement first s with
    | .done left =>
      if r.presence f = .defaulted then readItems first (i + 1) fs v s
      else
        .error
          ⟨.tooShort i (r.name ++ " with " ++ toString r.fields.length ++ " elements"), left, 0⟩
    | .more s =>
      let (v, s) ← r.read f v s
      readItems false (i + 1) fs v s

/-! ## Either form -/

/-- Reads a record, whose own bracket must still be allowed. -/
def reader (allowed : Bool) : Reader σ := fun s =>
  match skipBlanks s with
  | [] => .error ⟨.endOfValue, [], 0⟩
  | c :: t =>
    if c = '\x7b' ∨ c = '[' then
      if !allowed then .error ⟨.tooDeep, c :: t, 1⟩
      else if c = '[' then r.readItems true 0 r.fields r.blank t
      else r.readFields true (t.length + 1) [] r.blank t
    else .error (mismatch r.name (c :: t))

end Record

end Pagewright.Json
