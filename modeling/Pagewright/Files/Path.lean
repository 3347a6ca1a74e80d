/-
  Paths as texts: names separated by slashes.

  * `join` puts a path behind another; nothing is normalised;
  * `ancestors` lists a path and the paths above it, the nearest first, each as
    the beginning of the text before it.
-/
import Pagewright.Text.Basic

namespace Pagewright.Path

/-- The parts of a text between the separators. -/
def split (separator : Char) : List Char → List (List Char)
  | [] => [[]]
  | c :: cs =>
    if c = separator then [] :: split separator cs
    else match split separator cs with
      | [] => [[c]]
      | w :: ws => (c :: w) :: ws

/-- The names of a path, without the empty ones. -/
def names (path : String) : List String :=
  ((split '/' path.toList).filter (!·.isEmpty)).map String.ofList

/-- Whether a path starts from the root. -/
def isAbsolute (path : String) : Bool := path.toList.head? == some '/'

/-- Whether a path ends in a slash. -/
def endsInSlash (path : String) : Bool := path.toList.getLast? == some '/'

/-- The path `b` as seen from `a`. -/
def join (a b : String) : String :=
  if isAbsolute b then b
  else if a = "" || endsInSlash a then a ++ b
  else a ++ "/" ++ b

/-! ## Above a path -/

/-- Whether a part of a path leads nowhere else. -/
def isIdle (part : List Char) : Bool := part = [] || part = ['.']

/-- What stands before each name among parts of a path, the last name first.
    Idle parts just before the name are left out, others are kept. -/
def stems : List (List Char) → List (List (List Char))
  | [] => []
  | p :: ps =>
    (stems ps).map (fun stem => if stem.isEmpty && isIdle p then [] else p :: stem) ++
      if isIdle p then [] else [[]]

/-- The path with given parts. -/
def ofParts (parts : List (List Char)) : String := "/".intercalate (parts.map String.ofList)

/-- The paths above a path, the nearest first.  The last of them is the root
    or, for a relative path, the empty path. -/
def above (path : String) : List String :=
  if path = "" then []
  else match split '/' path.toList with
    | [] => []
    | [] :: ps => (stems ps).map fun stem => "/" ++ ofParts stem
    | ['.'] :: ps => (stems ps).map (fun stem => ofParts (['.'] :: stem)) ++ [""]
    | p :: ps => (stems (p :: ps)).map ofParts

/-- The path above a path, if there is one. -/
def parent? (path : String) : Option String := (above path).head?

/-- A path and the paths above it. -/
def ancestors (path : String) : List String := path :: above path

end Pagewright.Path
