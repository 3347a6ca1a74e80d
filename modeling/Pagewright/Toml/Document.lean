/-
  Documents of TOML.

  * `scanValue` reads a value; lists and tables in braces may be nested to a
    depth of `maxNesting`, which also bounds the parts of a key;
  * `parse` reads a document line by line: pairs, headers, comments.
-/
import Pagewright.Toml.Moment
import Pagewright.Toml.Number
import Pagewright.Toml.Value

namespace Pagewright.Toml

/-- How deeply values may be nested, and how many parts a key may have. -/
def maxNesting : Nat := 79

/-- A key and the equals sign after it: its parts but the last, and the last. -/
def scanKeyOfPair : Scanner (List String × String) := fun s => do
  let (ks, s) ← scanKey maxNesting s
  match s with
  | '=' :: s => (ks.getLast?).map fun k => ((ks.dropLast, k), s)
  | _ => none

/-! ## Values -/

/-- A number, a date or a time.  A date is tried first, a whole number last. -/
def scanNumber : Scanner Value := fun s =>
  match passMoment s with
  | some t => some (.moment (s.take (s.length - t.length)), t)
  | none => do
    match ← scanReal s with
    | (some (), t) => some (.real (s.take (s.length - t.length)), t)
    | (none, _) => (fun r => (.integer r.1, r.2)) <$> scanInteger s

/-- The values of a list up to its closing bracket; a comma may follow the
    last. -/
def scanElements (value : Scanner Value) : Nat → Scanner (List Value)
  | 0, _ => none
  | fuel + 1, s => do
    let s ← passGap false s
    match s with
    | ']' :: s => some ([], s)
    | _ =>
      let (v, s) ← value s
      let s ← passGap false s
      match s with
      | ',' :: s => (fun r => (v :: r.1, r.2)) <$> scanElements value fuel s
      | ']' :: s => some ([v], s)
      | _ => none

/-- The pairs of a table in braces up to the closing brace, added to those
    before. -/
def scanPairs (value : Scanner Value) : Nat → Entries → Scanner Entries
  | 0, _, _ => none
  | fuel + 1, es, s => do
    let ((path, k), s) ← scanKeyOfPair s
    let (v, s) ← value (skipBlanks s)
    let es ← addPair path k v .inline_ es
    match skipBlanks s with
    | ',' :: s => scanPairs value fuel es s
    | '\x7d' :: s => some (es, s)
    | _ => none

/-- A table in braces after the opening brace. -/
def scanBraces (value : Scanner Value) : Scanner Value := fun s =>
  (fun r => (.table .inline_ r.1, r.2)) <$>
    match skipBlanks s with
    | '\x7d' :: s => some ([], s)
    | _ => scanPairs value (s.length + 1) [] s

/-- A value that may hold `depth` more levels. -/
def scanValue : Nat → Scanner Value
  | depth, s =>
    match s with
    | [] => none
    | c :: t =>
      if c = '"' ∨ c = '\x27' then (fun r => (.text r.1, r.2)) <$> scanText s
      else if c = '[' then
        match depth with
        | 0 => none
        | depth + 1 =>
          (fun r => (.list r.1, r.2)) <$> scanElements (scanValue depth) (s.length + 1) t
      else if c = '\x7b' then
        match depth with
        | 0 => none
        | depth + 1 => scanBraces (scanValue depth) t
      else if c = 't' then
        match t with
        | 'r' :: 'u' :: 'e' :: u => some (.flag true, u)
        | _ => none
      else if c = 'f' then
        match t with
        | 'a' :: 'l' :: 's' :: 'e' :: u => some (.flag false, u)
        | _ => none
      else scanNumber s

/-! ## Documents -/

/-- What has been read of a document: everything, and the header it stands
    under. -/
structure State where
  root : Entries := []
  header : List String := []

/-- One pair, header or comment, or an empty line. -/
def scanLine (state : State) (s : List Char) : Option (State × List Char) :=
  match s with
  | '[' :: '[' :: t => do
    let (ks, t) ← scanKey maxNesting t
    let k ← ks.getLast?
    match t with
    | ']' :: ']' :: t =>
      let root ← openElement ks.dropLast k state.root
      some (⟨root, ks⟩, ← passLineEnd t)
    | _ => none
  | '[' :: t => do
    let (ks, t) ← scanKey maxNesting t
    let k ← ks.getLast?
    match t with
    | ']' :: t =>
      let root ← openTable ks.dropLast k state.root
      some (⟨root, ks⟩, ← passLineEnd t)
    | _ => none
  | '#' :: _ => (passLineEnd s).map (state, ·)
  | '\n' :: _ | '\r' :: _ => (passNewline s).map (state, ·)
  | _ => do
    let ((path, k), t) ← scanKeyOfPair s
    let (v, t) ← scanValue maxNesting (skipBlanks t)
    let root ← addUnder state.header path k v state.root
    some (⟨root, state.header⟩, ← passLineEnd t)

/-- The lines of a document from some state on; `fuel` bounds their number. -/
def scanLines : Nat → State → List Char → Option Entries
  | 0, _, _ => none
  | fuel + 1, state, s =>
    match skipBlanks s with
    | [] => some state.root
    | s => do
      let (state, s) ← scanLine state s
      scanLines fuel state s

/-- The entries of a document.  A byte order mark in front does not count. -/
def parse (source : String) : Option Entries :=
  let s := match source.toList with
    | '\uFEFF' :: s => s
    | s => s
  scanLines (s.length + 1) {} s

end Pagewright.Toml
