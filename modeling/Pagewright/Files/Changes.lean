/-
  What has changed between two states of a disk.
-/
import Pagewright.Files.Disk

namespace Pagewright.Disk

/-- What is below a place: the names from there on, and what is there. -/
def below (d : Disk) (top : Location) : List (Location × Entry) :=
  d.entries.filterMap fun e =>
    if top.isPrefixOf e.1 && top.length < e.1.length then some (e.1.drop top.length, e.2) else none

/-- What is new or different below a place. -/
def changedSince (d before : Disk) (top : Location) : List (Location × Entry) :=
  (d.below top).filter fun e => before.find? (top ++ e.1) ≠ some e.2

/-- What was below a place and is there no more, or only as something else. -/
def goneSince (d before : Disk) (top : Location) : List (Location × Entry) :=
  (before.below top).filter fun e =>
    match d.find? (top ++ e.1) with
    | none => true
    | some now => now.isDirectory != e.2.isDirectory

end Pagewright.Disk
