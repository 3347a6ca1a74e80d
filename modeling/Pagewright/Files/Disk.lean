/-
  Files and directories, and the operations a run needs.

  * `FileSystem m` gives the operations to a monad: read a file, make a
    directory, write a file; `makeDirs` makes a directory with those above it;
  * `Disk` is a tree of files as a value; its operations fail for the reasons a
    POSIX system has, and the paths may be relative, hold `.` and `..`, and end
    in a slash.
-/
import Pagewright.Files.Path

namespace Pagewright

/-! ## Failures -/

/-- Why an operation on files fails. -/
inductive FileError where
  | notFound
  | alreadyExists
  | notDirectory
  | isDirectory
  | nameTooLong
  /-- The path holds a character that no name may hold. -/
  | badName
  /-- The content of a file is not text. -/
  | notText
  /-- Any other reason, in the words of the system. -/
  | other (message : String)
  deriving DecidableEq, Repr

/-- A failure in words. -/
def FileError.message : FileError → String
  | notFound => "No such file or directory (os error 2)"
  | alreadyExists => "File exists (os error 17)"
  | notDirectory => "Not a directory (os error 20)"
  | isDirectory => "Is a directory (os error 21)"
  | nameTooLong => "File name too long (os error 36)"
  | badName => "file name contained an unexpected NUL byte"
  | notText => "stream did not contain valid UTF-8"
  | other message => message

/-! ## Operations -/

/-- Operations on files. -/
class FileSystem (m : Type → Type) where
  /-- The content of a file. -/
  readFile : String → m (Except FileError ByteArray)
  /-- Makes a directory in one that is there. -/
  makeDir : String → m (Except FileError Unit)
  /-- Whether a path leads to a directory. -/
  isDirectory : String → m Bool
  /-- Gives a file a content, and makes it if it is not there. -/
  writeFile : String → ByteArray → m (Except FileError Unit)

namespace FileSystem

variable {m : Type → Type} [Monad m] [FileSystem m]

/-- The content of a file as text. -/
def readText (path : String) : m (Except FileError String) := do
  match ← readFile path with
  | .error e => return .error e
  | .ok bytes =>
    match String.fromUTF8? bytes with
    | some s => return .ok s
    | none => return .error .notText

/-- Makes a directory; one that is there already is fine. -/
def settleDir (path : String) : m (Except FileError Unit) := do
  match ← makeDir path with
  | .ok () => return .ok ()
  | .error e => if ← isDirectory path then return .ok () else return .error e

/-- Makes the first of some directories, each of which is below the next; those
    above it are made only if it cannot be made without them. -/
def makeDirsFrom : List String → m (Except FileError Unit)
  | [] => return .error .notFound
  | path :: above => do
    if path = "" then return .ok ()
    match ← settleDir path with
    | .error .notFound =>
      match ← makeDirsFrom above with
      | .ok () => settleDir path
      | .error e => return .error e
    | r => return r

/-- Makes a directory and those above it; what is there already is fine. -/
def makeDirs (path : String) : m (Except FileError Unit) := makeDirsFrom (Path.ancestors path)

/-- Makes the directory that a path is to be found in, if the path names one. -/
def makeParent (path : String) : m (Except FileError Unit) :=
  match Path.parent? path with
  | none | some "" => return .ok ()
  | some parent => makeDirs parent

end FileSystem

/-! ## Disks -/

/-- A place in a tree of files: the names from the root on. -/
abbrev Location : Type := List String

/-- What is at a place. -/
inductive Entry where
  | directory
  | file (content : ByteArray)

instance : DecidableEq Entry
  | .directory, .directory => isTrue rfl
  | .directory, .file _ => isFalse nofun
  | .file _, .directory => isFalse nofun
  | .file a, .file b =>
    match ByteArray.decEq a b with
    | isTrue h => isTrue (congrArg Entry.file h)
    | isFalse h => isFalse fun h' => h (Entry.file.inj h')

/-- Whether an entry is a directory. -/
def Entry.isDirectory : Entry → Bool
  | directory => true
  | file _ => false

/-- A tree of files, and the directory that relative paths start from.  The
    root is always there. -/
structure Disk where
  current : Location := []
  entries : List (Location × Entry) := []

namespace Disk

variable (d : Disk)

/-- What is at a place, if anything is. -/
def find? (loc : Location) : Option Entry :=
  if loc = [] then some .directory else d.entries.lookup loc

/-- Replaces the entry at a place, or adds it at the end. -/
def putEntry (loc : Location) (e : Entry) : List (Location × Entry) → List (Location × Entry)
  | [] => [(loc, e)]
  | x :: xs => if x.1 = loc then (loc, e) :: xs else x :: putEntry loc e xs

/-- Puts something at a place. -/
def put (loc : Location) (e : Entry) : Disk := { d with entries := putEntry loc e d.entries }

/-- Takes away a place with all that is below it. -/
def remove (loc : Location) : Disk :=
  { d with entries := d.entries.filter fun x => !loc.isPrefixOf x.1 }

/-! ### Paths -/

/-- The longest name, in bytes. -/
def maxName : Nat := 255

/-- The longest path, in bytes. -/
def maxPath : Nat := 4095

/-- Succeeds in a directory. -/
def enter (loc : Location) : Except FileError Unit :=
  match d.find? loc with
  | none => .error .notFound
  | some .directory => .ok ()
  | some (.file _) => .error .notDirectory

/-- Where a name leads from a directory. -/
def step (loc : Location) (name : String) : Except FileError Location :=
  if name = "." then .ok loc
  else if name = ".." then .ok loc.dropLast
  else if maxName < name.utf8ByteSize then .error .nameTooLong
  else .ok (loc ++ [name])

/-- Follows names, each from a directory. -/
def walk (loc : Location) : List String → Except FileError Location
  | [] => .ok loc
  | name :: names => do
    d.enter loc
    walk (← step loc name) names

/-- What a path leads to: the directory in which its last name is to be found,
    that name (there is none in the root's path), and whether a slash follows. -/
structure Target where
  base : Location
  last : Option String
  slash : Bool

namespace Target

/-- The place of a target. -/
def place (t : Target) : Except FileError Location :=
  match t.last with
  | none => .ok t.base
  | some name => step t.base name

/-- Whether the last name is one that may be given to something new. -/
def isNew (t : Target) : Bool :=
  match t.last with
  | none => false
  | some name => name ≠ "." && name ≠ ".."

end Target

/-- What a path leads to.  All names but the last lead to directories; the last
    is not looked up yet. -/
def target (path : String) : Except FileError Target :=
  if path = "" then .error .notFound
  else if path.toList.any (·.toNat == 0) then .error .badName
  else if maxPath < path.utf8ByteSize then .error .nameTooLong
  else do
    let names := Path.names path
    let base ← d.walk (if Path.isAbsolute path then [] else d.current) names.dropLast
    d.enter base
    .ok ⟨base, names.getLast?, Path.endsInSlash path⟩

/-- The place that a path leads to. -/
def resolve (path : String) : Except FileError Location := do (← d.target path).place

/-! ### Reading and writing -/

/-- The content of a file. -/
def readFile (path : String) : Except FileError ByteArray := do
  let t ← d.target path
  match d.find? (← t.place) with
  | none => .error .notFound
  | some .directory => .error .isDirectory
  | some (.file content) => if t.slash then .error .notDirectory else .ok content

/-- Whether a path leads to a directory. -/
def isDirectory (path : String) : Bool :=
  match d.resolve path with
  | .ok loc => d.find? loc = some .directory
  | .error _ => false

/-- Makes one directory. -/
def makeDir (path : String) : Except FileError Disk := do
  let t ← d.target path
  let loc ← t.place
  if !t.isNew || (d.find? loc).isSome then .error .alreadyExists else .ok (d.put loc .directory)

/-- Gives a file a content.  A slash after the last name asks for a directory,
    and is refused before the name is looked up. -/
def writeFile (path : String) (content : ByteArray) : Except FileError Disk := do
  let t ← d.target path
  if !t.isNew || t.slash then .error .isDirectory
  else do
    let loc ← t.place
    if d.find? loc = some .directory then .error .isDirectory else .ok (d.put loc (.file content))

instance : FileSystem (StateM Disk) where
  readFile path := fun d => (d.readFile path, d)
  makeDir path := fun d =>
    match d.makeDir path with
    | .ok d => (.ok (), d)
    | .error e => (.error e, d)
  isDirectory path := fun d => (d.isDirectory path, d)
  writeFile path content := fun d =>
    match d.writeFile path content with
    | .ok d => (.ok (), d)
    | .error e => (.error e, d)

end Disk

end Pagewright
