/-
  Runs: pages are read, checked and compiled into a directory.

  * `loadPages` and `loadOptions` read the two inputs of a run;
  * `compilePages` copies the theme and writes the sources of every page, side
    by side.  A page that fails may keep others from being begun, but not the
    theme, whose own failure is the one that is told.  The barrel is written only
    when all of that has succeeded.
-/
import Pagewright.Barrel
import Pagewright.Page.Json
import Pagewright.Page.Sources
import Pagewright.Run.Concurrent
import Pagewright.Run.Error
import Pagewright.Run.Warning
import Pagewright.Validation.Basic

namespace Pagewright

/-! ## Reports -/

/-- What was written for a page. -/
structure PageReport where
  name : String
  directory : String
  files : List String
  /-- The tags of the components without a rendering. -/
  unknownTags : List String
  deriving DecidableEq, Repr

/-- What a run has written, and what it has to say about the pages. -/
structure Report where
  pages : List PageReport
  /-- Where the theme was copied to. -/
  themeCopied : Option String
  libraryFiles : List String
  warnings : List Warning
  deriving DecidableEq, Repr

/-! ## Inputs -/

/-- Reads and checks the pages of a text; `path` is only used for messages. -/
def parsePages (path source : String) : Except RunError (List Page) :=
  match Page.listOfJson source.toList with
  | .error f => .error (.parseInput path (f.message source.toList))
  | .ok ps =>
    match Page.validate ps with
    | [] => .ok ps
    | issues => .error (.invalidInput path issues)

/-- Reads the options of a text; `path` is only used for messages. -/
def parseOptions (path source : String) : Except RunError Options :=
  match Options.ofToml source with
  | some options => .ok options
  | none => .error (.parseConfig path)

section
variable {m : Type → Type} [Monad m] [FileSystem m]

open FileSystem Concurrent

/-- An operation on files as a step of a run. -/
def attempt {α : Type} (fail : FileError → RunError) (x : m (Except FileError α)) :
    ExceptT RunError m α :=
  ExceptT.mk do
    match ← x with
    | .ok a => return .ok a
    | .error e => return .error (fail e)

/-- Reads and checks the pages of a file. -/
def loadPages (path : String) : ExceptT RunError m (List Page) := do
  let source ← attempt (.readInput path) (readText path)
  ExceptT.mk (pure (parsePages path source))

/-- Reads the options of a file. -/
def loadOptions (path : String) : ExceptT RunError m Options := do
  let source ← attempt (.readConfig path) (readText path)
  ExceptT.mk (pure (parseOptions path source))

/-! ## Outputs -/

/-- Copies the theme, with the directories its target needs. -/
def copyTheme (theme : Theme) : ExceptT RunError m String := do
  let fail := RunError.themeCopy theme.source theme.target
  let content ← attempt fail (readFile theme.source)
  attempt fail (makeParent theme.target)
  attempt fail (FileSystem.writeFile theme.target content)
  return theme.target

/-- Writes a file. -/
def writeSource (path source : String) : ExceptT RunError m String := do
  attempt (.writeFile path) (FileSystem.writeFile path source.toUTF8)
  return path

/-- Writes the sources of a page into a directory of its own.  No file waits
    for another to be written. -/
def compilePage [Concurrent m] (output themeImport : String) (p : Page) :
    ExceptT RunError m PageReport := do
  let directory := Path.join output p.name
  attempt (.createDir directory) (makeDirs directory)
  let files ← ExceptT.mk (all ((p.files themeImport).map fun f =>
    (writeSource (Path.join directory f.1) f.2).run))
  return ⟨p.name, directory, files, p.unknownTags⟩

/-- Writes the barrel, one file after the other. -/
def writeLibrary (output : String) (library : Library) (ps : List Page) :
    ExceptT RunError m (List String) := do
  attempt (.createDir output) (makeDirs output)
  (Barrel.files library.moduleName ps).mapM fun f => writeSource (Path.join output f.1) f.2

/-- Copies the theme, if the options ask for it. -/
def copyThemeIfAsked (options : Options) : ExceptT RunError m (Option String) :=
  if options.copyTheme then some <$> copyTheme options.theme else pure none

/-- Writes the barrel, if the options ask for it. -/
def writeLibraryIfAsked (output : String) (options : Options) (ps : List Page) :
    ExceptT RunError m (List String) :=
  match options.library with
  | some library => writeLibrary output library ps
  | none => pure []

/-- Compiles pages into a directory. -/
def compilePages [Concurrent m] (output : String) (options : Options) (ps : List Page) :
    ExceptT RunError m Report := ExceptT.mk do
  let (theme, pages) ← both (copyThemeIfAsked options).run
    (all (ps.map fun p => (compilePage output options.themeImport p).run))
  match theme, pages with
  | .error e, _ => return .error e
  | .ok _, .error e => return .error e
  | .ok themeCopied, .ok reports =>
    match ← (writeLibraryIfAsked output options ps).run with
    | .error e => return .error e
    | .ok libraryFiles => return .ok ⟨reports, themeCopied, libraryFiles, Page.warnings options ps⟩

/-- Compiles the pages of a file into a directory. -/
def compile [Concurrent m] (input output : String) (options : Options) :
    ExceptT RunError m Report := do
  compilePages output options (← loadPages input)

end

end Pagewright
