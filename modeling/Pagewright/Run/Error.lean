/-
  The ways in which a run can fail.
-/
import Pagewright.Files.Disk
import Pagewright.Json.Fault
import Pagewright.Validation.Issue

namespace Pagewright

/-- Why a run fails. -/
inductive RunError where
  | readInput (path : String) (reason : FileError)
  /-- The input is not the JSON of pages; the reason is in words. -/
  | parseInput (path reason : String)
  | invalidInput (path : String) (issues : List Issue)
  | createDir (path : String) (reason : FileError)
  | writeFile (path : String) (reason : FileError)
  | themeCopy (source target : String) (reason : FileError)
  | readConfig (path : String) (reason : FileError)
  | parseConfig (path : String)
  deriving DecidableEq, Repr

namespace RunError

/-- What lies behind a failure, in words. -/
def reason? : RunError → Option String
  | readInput _ e | createDir _ e | writeFile _ e | themeCopy _ _ e | readConfig _ e =>
    some e.message
  | parseInput _ reason => some reason
  | invalidInput .. | parseConfig _ => none

/-- What failed, in words. -/
def headline : RunError → String
  | readInput path _ => "failed to read input " ++ path
  | parseInput path _ => "failed to parse input " ++ path
  | invalidInput path issues =>
    "invalid page definitions in " ++ path ++ ":\n" ++
      Text.lines (issues.map fun i => "  - " ++ i.text)
  | createDir path _ => "failed to create directory " ++ path
  | writeFile path _ => "failed to write " ++ path
  | themeCopy source target _ =>
    "failed to copy theme stylesheet from " ++ source ++ " to " ++ target
  | readConfig path _ => "failed to read config " ++ path
  | parseConfig path => "invalid config " ++ path

/-- A failure in words. -/
def message (e : RunError) : String :=
  match e.reason? with
  | some reason => e.headline ++ ": " ++ reason
  | none => e.headline

/-- A failure with all that lies behind it, after what was being done. -/
def chain (doing : String) (e : RunError) : String :=
  doing ++ ": " ++ e.message ++
    match e.reason? with
    | some reason => ": " ++ reason
    | none => ""

end RunError

end Pagewright
