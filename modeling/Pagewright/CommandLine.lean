/-
  The command line of the compiler.

  * `Request.parse` understands the arguments, from left to right; help and
    version are answered where they stand, before anything that is missing or
    in conflict is noticed;
  * `run` carries out a run: its outcome is an exit code, what is printed, and
    the message of a failure.
-/
import Pagewright.Run.Compile
import Pagewright.Text.Terminal

namespace Pagewright.CommandLine

/-! ## Arguments -/

/-- The arguments of a run. -/
structure Arguments where
  input : String := ""
  output : String := ""
  config : Option String := none
  themeSource : Option String := none
  themeTarget : Option String := none
  noTheme : Bool := false
  themeImport : Option String := none
  library : Option String := none
  verbosity : Nat := 0
  deriving DecidableEq, Repr

/-- What is asked for. -/
inductive Request where
  | help
  | version
  | run (arguments : Arguments)
  deriving DecidableEq, Repr

/-- What is wrong with the arguments. -/
inductive UsageError where
  | unknownOption (name : String)
  | unexpectedValue (name : String)
  | missingValue (name : String)
  | emptyValue (name : String)
  | repeated (name : String)
  | unexpectedArgument (value : String)
  | missingArgument (name : String)
  | conflict (name other : String)
  deriving DecidableEq, Repr

/-- A usage error in words. -/
def UsageError.message : UsageError → String
  | unknownOption name => "unexpected argument '" ++ name ++ "' found"
  | unexpectedValue name => "unexpected value for '" ++ name ++ "' found; no more were expected"
  | missingValue name => "a value is required for '" ++ name ++ "' but none was supplied"
  | emptyValue name => "a value is required for '" ++ name ++ "' but none was supplied"
  | repeated name => "the argument '" ++ name ++ "' cannot be used multiple times"
  | unexpectedArgument value => "unexpected argument '" ++ value ++ "' found"
  | missingArgument name =>
    "the following required arguments were not provided:\n  <" ++ name ++ ">"
  | conflict name other => "the argument '" ++ name ++ "' cannot be used with '" ++ other ++ "'"

/-! ## Options -/

/-- An option that takes a value. -/
inductive ValueOption where
  | config | themeSource | themeTarget | themeImport | library
  deriving DecidableEq, Repr

namespace ValueOption

/-- The long name of an option. -/
def name : ValueOption → String
  | config => "config"
  | themeSource => "theme-source"
  | themeTarget => "theme-target"
  | themeImport => "theme-import"
  | library => "library"

/-- All options that take a value. -/
def all : List ValueOption := [config, themeSource, themeTarget, themeImport, library]

/-- Whether the value is a path, which may not be empty. -/
def isPath : ValueOption → Bool
  | config | themeSource | themeTarget => true
  | themeImport | library => false

/-- The value that has been given so far. -/
def value? (o : ValueOption) (a : Arguments) : Option String :=
  match o with
  | config => a.config
  | themeSource => a.themeSource
  | themeTarget => a.themeTarget
  | themeImport => a.themeImport
  | library => a.library

/-- Gives the option its value. -/
def set (o : ValueOption) (v : String) (a : Arguments) : Arguments :=
  match o with
  | config => { a with config := some v }
  | themeSource => { a with themeSource := some v }
  | themeTarget => { a with themeTarget := some v }
  | themeImport => { a with themeImport := some v }
  | library => { a with library := some v }

/-- Gives the option its value, once. -/
def give (o : ValueOption) (v : String) (a : Arguments) : Except UsageError Arguments :=
  if o.isPath && v = "" then .error (.emptyValue o.name)
  else if (o.value? a).isSome then .error (.repeated o.name)
  else .ok (o.set v a)

end ValueOption

/-- An option without a value. -/
inductive Flag where
  | noTheme | verbose | help | version
  deriving DecidableEq, Repr

namespace Flag

/-- The long name of a flag. -/
def name : Flag → String
  | noTheme => "no-theme"
  | verbose => "verbose"
  | help => "help"
  | version => "version"

/-- All flags. -/
def all : List Flag := [noTheme, verbose, help, version]

/-- The flag with a given letter. -/
def ofLetter? (c : Char) : Option Flag :=
  if c = 'v' then some verbose
  else if c = 'h' then some help
  else if c = 'V' then some version
  else none

/-- Sets a flag.  Help and version are answered at once. -/
def set (f : Flag) (a : Arguments) : Except UsageError (Request ⊕ Arguments) :=
  match f with
  | noTheme =>
    if a.noTheme then .error (.repeated f.name) else .ok (.inr { a with noTheme := true })
  | verbose => .ok (.inr { a with verbosity := a.verbosity + 1 })
  | help => .ok (.inl .help)
  | version => .ok (.inl .version)

end Flag

/-! ## Parsing -/

/-- An argument that no option claims: the input, then the output. -/
def addPositional (count : Nat) (v : String) (a : Arguments) : Except UsageError Arguments :=
  match count with
  | 0 => if v = "" then .error (.emptyValue "INPUT") else .ok { a with input := v }
  | 1 => if v = "" then .error (.emptyValue "OUTPUT_DIR") else .ok { a with output := v }
  | _ => .error (.unexpectedArgument v)

/-- Whether an argument looks like an option and so is no value. -/
def looksLikeOption (arg : String) : Bool :=
  match arg.toList with
  | '-' :: _ :: _ => true
  | _ => false

/-- What a cluster of letters leaves to be done. -/
inductive Cluster where
  /-- Nothing. -/
  | done (a : Arguments)
  /-- Help or version is asked for. -/
  | answer (r : Request)
  /-- An option waits for its value. -/
  | value (o : ValueOption) (a : Arguments)

/-- The letters after a hyphen.  The letter of an option takes the rest as its
    value, with or without an equals sign. -/
def parseLetters (a : Arguments) : List Char → Except UsageError Cluster
  | [] => .ok (.done a)
  | c :: cs =>
    if c = 'c' then
      match cs with
      | [] => .ok (.value .config a)
      | '=' :: v => .done <$> ValueOption.config.give (String.ofList v) a
      | v => .done <$> ValueOption.config.give (String.ofList v) a
    else match Flag.ofLetter? c with
      | none => .error (.unknownOption (String.ofList ['-', c]))
      | some f => do
        match ← f.set a with
        | .inl r => .ok (.answer r)
        | .inr a => parseLetters a cs

/-- A long option: its name, and the value after an equals sign. -/
def splitLong (cs : List Char) : String × Option String :=
  let name := String.ofList (cs.takeWhile (· != '='))
  match cs.dropWhile (· != '=') with
  | _ :: v => (name, some (String.ofList v))
  | [] => (name, none)

/-- The parts of an argument that starts with two hyphens. -/
def parseLong (a : Arguments) (cs : List Char) : Except UsageError Cluster :=
  let (name, value) := splitLong cs
  match ValueOption.all.find? (·.name == name) with
  | some o =>
    match value with
    | some v => .done <$> o.give v a
    | none => .ok (.value o a)
  | none =>
    match Flag.all.find? (·.name == name) with
    | none => .error (.unknownOption ("--" ++ name))
    | some f =>
      match value with
      | some _ => .error (.unexpectedValue name)
      | none => do
        match ← f.set a with
        | .inl r => .ok (.answer r)
        | .inr a => .ok (.done a)

/-- What must hold once all arguments have been read. -/
def finish (count : Nat) (a : Arguments) : Except UsageError Request :=
  if a.noTheme && a.themeSource.isSome then .error (.conflict "no-theme" "theme-source")
  else if a.noTheme && a.themeTarget.isSome then .error (.conflict "no-theme" "theme-target")
  else if count = 0 then .error (.missingArgument "INPUT")
  else if count = 1 then .error (.missingArgument "OUTPUT_DIR")
  else .ok (.run a)

/-- Reads arguments from left to right.  `waiting` is the option whose value
    comes next, `literal` tells that no more options follow. -/
def parseFrom (waiting : Option ValueOption) (literal : Bool) (count : Nat) (a : Arguments) :
    List String → Except UsageError Request
  | [] =>
    match waiting with
    | some o => .error (.missingValue o.name)
    | none => finish count a
  | arg :: args =>
    match waiting with
    | some o =>
      if looksLikeOption arg then .error (.missingValue o.name)
      else do parseFrom none literal count (← o.give arg a) args
    | none =>
      let positional : Except UsageError Request := do
        parseFrom none literal (count + 1) (← addPositional count arg a) args
      if literal then positional
      else match arg.toList with
        | ['-', '-'] => parseFrom none true count a args
        | '-' :: '-' :: cs => do
          match ← parseLong a cs with
          | .done a => parseFrom none false count a args
          | .answer r => .ok r
          | .value o a => parseFrom (some o) false count a args
        | '-' :: c :: cs => do
          match ← parseLetters a (c :: cs) with
          | .done a => parseFrom none false count a args
          | .answer r => .ok r
          | .value o a => parseFrom (some o) false count a args
        | _ => positional

/-- What arguments ask for. -/
def Request.parse (args : List String) : Except UsageError Request := parseFrom none false 0 {} args

/-! ## Texts -/

/-- The help text. -/
def helpText : String :=
  String.join <| [
    "Compile no-code page definitions into Angular components",
    "",
    "Usage: nocode-compiler [OPTIONS] <INPUT> <OUTPUT_DIR>",
    "",
    "Arguments:",
    "  <INPUT>       JSON file holding the array of page definitions",
    "  <OUTPUT_DIR>  Directory that receives one sub-directory per page",
    "",
    "Options:",
    "  -c, --config <FILE>        TOML file with compile options",
    "      --theme-source <PATH>  ",
    "      --theme-target <PATH>  ",
    "      --no-theme             Skip copying the theme stylesheet",
    "      --theme-import <PATH>  Path written into each stylesheet's @import",
    "      --library <NAME>       Also emit the library module, public API and routes " ++
      "under this module name",
    "  -v, --verbose...           ",
    "  -h, --help                 Print help",
    "  -V, --version              Print version"].map (· ++ "\n")

/-- The version text. -/
def versionText : String := "nocode-compiler 0.1.0\n"

/-- What is printed after a run. -/
def summary (r : Report) : String :=
  String.join <|
    (r.pages.flatMap (fun p =>
        (p.name ++ " -> " ++ p.directory) ::
          p.unknownTags.map fun tag => "  unknown component type: " ++ tag) ++
      (r.themeCopied.map fun target => "theme -> " ++ target).toList ++
      r.libraryFiles.map (fun file => "library -> " ++ file) ++
      [toString r.pages.length ++ " page(s) generated"]).map (· ++ "\n")

/-! ## Runs -/

/-- How a command ends. -/
structure Outcome where
  exit : Nat
  stdout : String := ""
  /-- What went wrong, as the log shows it. -/
  message : Option String := none
  warnings : List Warning := []
  deriving DecidableEq, Repr

/-- The options of a run: what the arguments give comes before what the
    configuration gives. -/
def Arguments.override (a : Arguments) (options : Options) : Options where
  copyTheme := if a.noTheme then false else options.copyTheme
  theme.source := a.themeSource.getD options.theme.source
  theme.target := a.themeTarget.getD options.theme.target
  themeImport := a.themeImport.getD options.themeImport
  library :=
    match a.library with
    | some moduleName => some { moduleName }
    | none => options.library

section
variable {m : Type → Type} [Monad m] [FileSystem m]

/-- The options of a run. -/
def Arguments.options (a : Arguments) : ExceptT RunError m Options := do
  match a.config with
  | some path => return a.override (← loadOptions path)
  | none => return a.override {}

/-- How a run ends that has failed. -/
def Outcome.ofError (doing : String) (e : RunError) : Outcome where
  exit := 1
  message := some (Text.inert (e.chain doing))

/-- Carries out a run. -/
def runArguments [Concurrent m] (a : Arguments) : m Outcome := do
  match ← (a.options : ExceptT RunError m Options).run with
  | .error e => return .ofError "failed to load compile options" e
  | .ok options =>
    match ← (compile a.input a.output options : ExceptT RunError m Report).run with
    | .error e => return .ofError ("failed to compile " ++ a.input ++ " into " ++ a.output) e
    | .ok report => return { exit := 0, stdout := summary report, warnings := report.warnings }

/-- Carries out what arguments ask for. -/
def run [Concurrent m] (args : List String) : m Outcome :=
  match Request.parse args with
  | .error e => return { exit := 2, message := some e.message }
  | .ok .help => return { exit := 0, stdout := helpText }
  | .ok .version => return { exit := 0, stdout := versionText }
  | .ok (.run a) => runArguments a

end

end Pagewright.CommandLine
