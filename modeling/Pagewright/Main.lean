/-
  The program: the command line over the files of the system.
-/
import Pagewright.CommandLine

namespace Pagewright

/-- A failure of the system as a failure of an operation on files. -/
def FileError.ofSystem (e : IO.Error) : FileError :=
  match e with
  | .noFileOrDirectory .. => .notFound
  | .alreadyExists .. => .alreadyExists
  | .inappropriateType _ code details =>
    if code = 21 then .isDirectory else if code = 20 then .notDirectory else .other details
  | e => .other (toString e)

/-- An action that may fail, as an operation on files. -/
def guarded {α : Type} (act : IO α) : IO (Except FileError α) := do
  try return .ok (← act) catch e => return .error (.ofSystem e)

instance : FileSystem IO where
  readFile path := guarded (IO.FS.readBinFile path)
  makeDir path := guarded (IO.FS.createDir path)
  -- In a directory, and nowhere else, the name `.` is taken already.
  isDirectory path := do
    match ← guarded (IO.FS.createDir (path ++ "/.")) with
    | .error .alreadyExists => return true
    | _ => return false
  writeFile path content := guarded (IO.FS.writeBinFile path content)

/-- The system is given one job after the other. -/
instance : Concurrent IO := .inOrder

/-- A warning as a line of the log. -/
def Warning.logLine (w : Warning) : String :=
  "WARN " ++ Text.inert (" ".intercalate (w.message :: w.details.map fun d => d.1 ++ "=" ++ d.2))

end Pagewright

open Pagewright in
def main (args : List String) : IO UInt32 := do
  let outcome ← (CommandLine.run args : IO CommandLine.Outcome)
  for w in outcome.warnings do
    IO.eprintln w.logLine
  IO.print outcome.stdout
  if let some message := outcome.message then
    IO.eprintln ("ERROR " ++ message)
  return outcome.exit.toUInt32
