/-
  Values of TOML and the tables they are put into.

  A table remembers how it came about, since that decides what may still be
  added to it: by a header of its own, on the way to the table of another
  header, by a dotted key, or in braces.

  * `descend` goes along a path of keys, makes the tables that are missing,
    and changes the table at the end;
  * `addPair`, `openTable` and `openElement` are the three ways in which a
    document grows.
-/

namespace Pagewright.Toml

/-- How a table came about. -/
inductive TableForm where
  /-- By a header. -/
  | header
  /-- On the way to the table of a header. -/
  | passed
  /-- By a dotted key. -/
  | dotted
  /-- In braces. -/
  | inline_
  deriving DecidableEq, Repr

/-- A value under a key. -/
inductive Value where
  | text (s : String)
  | integer (n : Int)
  /-- A number with a fraction, as it is written. -/
  | real (written : List Char)
  | flag (b : Bool)
  /-- A date, a time, or both, as it is written. -/
  | moment (written : List Char)
  | list (vs : List Value)
  | table (form : TableForm) (entries : List (String × Value))
  /-- Tables that share a header in double brackets. -/
  | tables (elements : List (List (String × Value)))

/-- What a table holds, in the order in which it was given. -/
abbrev Entries := List (String × Value)

/-- Replaces the value of a key, or adds it at the end. -/
def setEntry (k : String) (v : Value) : Entries → Entries
  | [] => [(k, v)]
  | e :: es => if e.1 = k then (k, v) :: es else e :: setEntry k v es

/-- Changes the table at the end of a path.  A dotted key may only pass through
    tables that no header and no braces have made; a header may also pass
    through those of headers.  Of tables that share a header the last is
    meant. -/
def descend (dotted : Bool) (change : TableForm → Entries → Option Entries) :
    List String → TableForm → Entries → Option Entries
  | [], form, es => change form es
  | k :: ks, _, es =>
    match es.lookup k with
    | none =>
      let form := if dotted then .dotted else .passed
      (descend dotted change ks form []).map fun sub => es ++ [(k, .table form sub)]
    | some (.table form sub) =>
      if form = .inline_ ∨ dotted ∧ form = .header then none
      else (descend dotted change ks form sub).map fun sub => setEntry k (.table form sub) es
    | some (.tables elements) =>
      match elements.getLast? with
      | none => none
      | some last =>
        (descend dotted change ks .header last).map fun last =>
          setEntry k (.tables (elements.dropLast ++ [last])) es
    | some _ => none

/-- Adds a value under a dotted key, whose last part is `k`.  The table that
    receives it must have come about the same way, and must not have the key. -/
def addPair (path : List String) (k : String) (v : Value) (form : TableForm) (es : Entries) :
    Option Entries :=
  descend true (fun form es =>
    if decide (form = .dotted) == path.isEmpty || (es.lookup k).isSome then none
    else some (es ++ [(k, v)]))
    path form es

/-- Adds a value in the table of the header `header`. -/
def addUnder (header path : List String) (k : String) (v : Value) (root : Entries) :
    Option Entries :=
  descend false (addPair path k v) header .header root

/-- Opens the table of a header, whose last part is `k`.  A table that has only
    been passed so far may still get its header. -/
def openTable (path : List String) (k : String) (root : Entries) : Option Entries :=
  descend false (fun _ es =>
    match es.lookup k with
    | none => some (es ++ [(k, .table .header [])])
    | some (.table .passed sub) => some (setEntry k (.table .header sub) es)
    | some _ => none) path .header root

/-- Opens another of the tables that share a header. -/
def openElement (path : List String) (k : String) (root : Entries) : Option Entries :=
  descend false (fun _ es =>
    match es.lookup k with
    | none => some (es ++ [(k, .tables [[]])])
    | some (.tables elements) => some (setEntry k (.tables (elements ++ [[]])) es)
    | some _ => none) path .header root

end Pagewright.Toml
