/-
  What a command runs with.

  * `Arguments.document?`: what the configuration of a command says;
  * `readsOff_options`: to read the options is to look at the disk and no more;
  * `run_configured`: a command without a readable and accepted configuration does
    nothing, and any other one compiles with layered options.
-/
import Pagewright.Proofs.Run.Layers
import Pagewright.Proofs.Run.Outcome

namespace Pagewright

open Toml CommandLine

/-! ## Reading the options -/

/-- The text in a file. -/
def Disk.text (d : Disk) (path : String) : Except FileError String :=
  match d.readFile path with
  | .error e => .error e
  | .ok bytes =>
    match String.fromUTF8? bytes with
    | some source => .ok source
    | none => .error .notText

namespace CommandLine.Arguments

/-- What the configuration of a command says: nothing if none is given, and otherwise what
    stands in its file, if that is a document. -/
def document? (a : Arguments) (d : Disk) : Option Entries :=
  match a.config with
  | none => some []
  | some path => (d.text path).toOption.bind Toml.parse

/-- The options that a command runs with, or why it does not run. -/
def loaded (a : Arguments) (d : Disk) : Except RunError Options :=
  match a.config with
  | none => .ok (a.override {})
  | some path => a.override <$> ((d.text path).mapError (.readConfig path) >>= parseOptions path)

theorem parseOptions_eq_ok_iff {path source : String} {given : Options} :
    parseOptions path source = .ok given ↔
      ∃ es, Toml.parse source = some es ∧ Options.ofEntries es = some given := by
  have hread : parseOptions path source = .ok given ↔ Options.ofToml source = some given := by
    unfold parseOptions
    cases Options.ofToml source <;> simp
  rw [hread, Options.ofToml, Option.bind_eq_bind, Option.bind_eq_some_iff]

theorem loaded_of_config_eq_ok_iff {path : String} {d : Disk} {given : Options} :
    ((d.text path).mapError (.readConfig path) >>= parseOptions path) = .ok given ↔
      ∃ es, (d.text path).toOption.bind Toml.parse = some es ∧
        Options.ofEntries es = some given := by
  cases d.text path with
  | error e => exact ⟨nofun, fun ⟨es, h, _⟩ => by cases h⟩
  | ok source => exact parseOptions_eq_ok_iff

theorem map_eq_ok_iff {ε α β : Type} {f : α → β} {r : Except ε α} {b : β} :
    f <$> r = .ok b ↔ ∃ a, r = .ok a ∧ f a = b := by
  cases r with
  | error e => exact ⟨nofun, fun ⟨a, h, _⟩ => by cases h⟩
  | ok a => simp [Functor.map, Except.map]

/-- There are options exactly if the document gives some, and the arguments come before
    them. -/
theorem loaded_eq_ok_iff {a : Arguments} {d : Disk} {options : Options} :
    a.loaded d = .ok options ↔ ∃ es given, a.document? d = some es ∧
      Options.ofEntries es = some given ∧ a.override given = options := by
  unfold loaded document?
  cases a.config with
  | none =>
    have hempty : Options.ofEntries [] = some {} := rfl
    simp [hempty]
  | some path =>
    dsimp only
    rw [map_eq_ok_iff]
    simp only [loaded_of_config_eq_ok_iff]
    constructor
    · rintro ⟨given, ⟨es, hes, hof⟩, hoptions⟩
      exact ⟨es, given, hes, hof, hoptions⟩
    · rintro ⟨es, given, hes, hof, hoptions⟩
      exact ⟨given, ⟨es, hes, hof⟩, hoptions⟩

end CommandLine.Arguments

namespace Behaviour

variable {α β : Type} {x : Behaviour α} {f : α → Behaviour β} {d F : Disk} {a : α} {b : β}

/-- A job has one result, and it leaves the disk as it is. -/
def ReadsOff (x : Behaviour α) (d : Disk) (a : α) : Prop :=
  ∀ b F, Executes x d b F ↔ b = a ∧ F = d

theorem readsOff_pure (a : α) (d : Disk) : ReadsOff (pure a) d a :=
  fun _ _ => ran_pure.trans (and_congr_right fun _ => eq_comm)

/-- What is done behind a job that only reads is done with its result. -/
theorem ReadsOff.executes_bind_iff (hx : ReadsOff x d a) :
    Executes (x >>= f) d b F ↔ Executes (f a) d b F := by
  refine ran_bind.trans ⟨?_, fun h => ⟨a, d, (hx a d).2 ⟨rfl, rfl⟩, h⟩⟩
  rintro ⟨a', m, ha, h⟩
  obtain ⟨rfl, rfl⟩ := (hx a' m).1 ha
  exact h

theorem ReadsOff.bind (hx : ReadsOff x d a) (hf : ReadsOff (f a) d b) :
    ReadsOff (x >>= f) d b :=
  fun c F => hx.executes_bind_iff.trans (hf c F)

theorem readsOff_readFile (path : String) (d : Disk) :
    ReadsOff (FileSystem.readFile path) d (d.readFile path) := by
  intro r F
  refine ran_readFile.trans ⟨?_, ?_⟩
  · rintro ⟨m, rfl, rfl, rfl⟩
    exact ⟨rfl, rfl⟩
  · rintro ⟨rfl, rfl⟩
    exact ⟨F, rfl, rfl, rfl⟩

theorem readsOff_readText (path : String) (d : Disk) :
    ReadsOff (FileSystem.readText path) d (d.text path) := by
  refine (readsOff_readFile path d).bind ?_
  unfold Disk.text
  cases d.readFile path with
  | error e => exact readsOff_pure _ d
  | ok bytes =>
    dsimp only
    cases String.fromUTF8? bytes <;> exact readsOff_pure _ d

theorem readsOff_attempt {x : Behaviour (Except FileError α)} {r : Except FileError α}
    (fail : FileError → RunError) (hx : ReadsOff x d r) :
    ReadsOff (attempt fail x).run d (r.mapError fail) := by
  refine ReadsOff.bind hx ?_
  cases r <;> exact readsOff_pure _ d

theorem readsOff_run_bind {x : ExceptT RunError Behaviour α} {r : Except RunError α}
    {f : α → ExceptT RunError Behaviour β} {g : α → Except RunError β} (hx : ReadsOff x.run d r)
    (hf : ∀ a, ReadsOff (f a).run d (g a)) : ReadsOff (x >>= f).run d (r >>= g) := by
  refine ReadsOff.bind hx ?_
  cases r with
  | error e => exact readsOff_pure _ d
  | ok a => exact hf a

/-- Reading the options changes nothing. -/
theorem readsOff_options (a : Arguments) (d : Disk) : ReadsOff a.options.run d (a.loaded d) := by
  unfold Arguments.options Arguments.loaded
  cases a.config with
  | none => exact readsOff_pure _ d
  | some path =>
    have hload : ReadsOff (loadOptions path).run d
        ((d.text path).mapError (.readConfig path) >>= parseOptions path) :=
      readsOff_run_bind (readsOff_attempt _ (readsOff_readText path d)) fun _ => readsOff_pure _ d
    exact readsOff_run_bind hload fun _ => readsOff_pure _ d

end Behaviour

/-! ## Commands -/

namespace CommandLine

/-- A configuration that cannot be read, is no document, or has a value of a wrong type. -/
def Arguments.Rejected (a : Arguments) (d : Disk) : Prop :=
  ∀ es, a.document? d = some es → ¬Accepted es

/-- How a command ends whose pages have been compiled, or have not. -/
def Outcome.ofResult (a : Arguments) : Except RunError Report → Outcome
  | .ok report => { exit := 0, stdout := summary report, warnings := report.warnings }
  | .error e => .ofError ("failed to compile " ++ a.input ++ " into " ++ a.output) e

theorem Outcome.exit_ofResult (a : Arguments) (r : Except RunError Report) :
    (Outcome.ofResult a r).exit = 0 ↔ ∃ report, r = .ok report := by
  cases r <;> simp [ofResult, ofError]

variable {a : Arguments} {d F : Disk} {options : Options} {outcome : Outcome}

open Behaviour

theorem executes_runArguments_error {e : RunError} (h : a.loaded d = .error e) :
    Executes (runArguments a) d outcome F ↔
      outcome = .ofError "failed to load compile options" e ∧ F = d := by
  have hread := readsOff_options a d
  rw [h] at hread
  exact hread.executes_bind_iff.trans (readsOff_pure _ d outcome F)

theorem executes_runArguments_ok (h : a.loaded d = .ok options) :
    Executes (runArguments a) d outcome F ↔
      ∃ r, Executes (compile a.input a.output options).run d r F ∧ outcome = .ofResult a r := by
  have hread := readsOff_options a d
  rw [h] at hread
  refine hread.executes_bind_iff.trans (ran_bind.trans ?_)
  constructor
  · rintro ⟨r, m, hcompile, hend⟩
    cases r with
    | error e =>
      obtain ⟨rfl, rfl⟩ := ran_pure.1 hend
      exact ⟨_, hcompile, rfl⟩
    | ok report =>
      obtain ⟨rfl, rfl⟩ := ran_pure.1 hend
      exact ⟨_, hcompile, rfl⟩
  · rintro ⟨r, hcompile, rfl⟩
    refine ⟨r, F, hcompile, ?_⟩
    cases r <;> exact ran_pure.2 ⟨rfl, rfl⟩

/-- Every command comes to an end in some way. -/
theorem exists_executes_runArguments (a : Arguments) (d : Disk) :
    ∃ outcome F, Executes (runArguments a) d outcome F := by
  cases h : a.loaded d with
  | error e => exact ⟨_, d, (executes_runArguments_error h).2 ⟨rfl, rfl⟩⟩
  | ok options =>
    have hcompile := simulates_compile a.input a.output options d
    exact ⟨_, _, (executes_runArguments_ok h).2 ⟨_, hcompile, rfl⟩⟩

/-- A command without options has failed before it has done anything. -/
theorem of_rejected (h : a.Rejected d) (hrun : Executes (runArguments a) d outcome F) :
    outcome.exit = 1 ∧ outcome.stdout = "" ∧ F = d := by
  cases hload : a.loaded d with
  | error e =>
    obtain ⟨rfl, rfl⟩ := (executes_runArguments_error hload).1 hrun
    exact ⟨rfl, rfl, rfl⟩
  | ok options =>
    obtain ⟨es, given, hes, hgiven, -⟩ := Arguments.loaded_eq_ok_iff.1 hload
    exact absurd (ofEntries_eq_some_iff.1 hgiven).1 (h es hes)

/-- A command whose document is accepted has layered options. -/
theorem exists_loaded {es : Entries} (hes : a.document? d = some es) (h : Accepted es) :
    ∃ options, Layered a es options ∧ a.loaded d = .ok options := by
  obtain ⟨given, hgiven⟩ := h.exists_ofEntries
  have hlayered := (ofEntries_eq_some_iff.1 hgiven).2
  exact ⟨a.override given, hlayered.override a,
    Arguments.loaded_eq_ok_iff.2 ⟨es, given, hes, hgiven, rfl⟩⟩

/-- **Arguments come before the configuration, the configuration before the defaults, and a
    bad one has no effect.**  If the configuration is rejected, every execution fails and
    leaves the disk as it was.  Otherwise the executions are those of a compilation with
    options of which each is taken from the first place that gives it, and they succeed
    exactly if the compilation does. -/
theorem run_configured {args : List String} {a : Arguments}
    (h : Request.parse args = .ok (.run a)) (d : Disk) :
    (∃ outcome F, Executes (run args) d outcome F) ∧
    (a.Rejected d → ∀ outcome F, Executes (run args) d outcome F →
      outcome.exit = 1 ∧ outcome.stdout = "" ∧ F = d) ∧
    ∀ es, a.document? d = some es → Accepted es → ∃ options, Layered a es options ∧
      ∀ outcome F, Executes (run args) d outcome F ↔
        ∃ r, Executes (compile a.input a.output options).run d r F ∧
          outcome = .ofResult a r ∧ (outcome.exit = 0 ↔ ∃ report, r = .ok report) := by
  have hrun : (run args : Behaviour Outcome) = runArguments a := by rw [run, h]
  rw [hrun]
  refine ⟨exists_executes_runArguments a d, fun hrejected outcome F => of_rejected hrejected,
    fun es hes haccepted => ?_⟩
  obtain ⟨options, hlayered, hload⟩ := exists_loaded hes haccepted
  refine ⟨options, hlayered, fun outcome F => (executes_runArguments_ok hload).trans ?_⟩
  refine exists_congr fun r => and_congr_right fun _ => (and_iff_left_of_imp ?_).symm
  rintro rfl
  exact Outcome.exit_ofResult a r

/-! ### A configuration that gives some of the options -/

/-- A disk with a configuration that gives one field of the theme, and a barrel without its
    name. -/
def configuredDisk : Disk where
  entries := [(["nocode.toml"], .file
    "theme-import = \"~/theme.scss\"\n[theme]\nsource = \"design.scss\"\n[library]\n".toUTF8)]

/-- The arguments of a command that gives the other field. -/
def configuredArguments : Arguments where
  input := "pages.json"
  output := "out"
  config := some "nocode.toml"
  themeTarget := some "out/theme.scss"

/-- The options of the command. -/
def configuredOptions : Options where
  theme := ⟨"design.scss", "out/theme.scss"⟩
  themeImport := "~/theme.scss"
  library := some ⟨"dynamic-components"⟩

theorem loaded_configuredDisk :
    configuredArguments.loaded configuredDisk = .ok configuredOptions := by
  have hoptions : (configuredArguments.loaded configuredDisk).toOption =
      some configuredOptions := by decide +kernel
  cases h : configuredArguments.loaded configuredDisk with
  | error e =>
    rw [h] at hoptions
    cases hoptions
  | ok options =>
    rw [h] at hoptions
    rw [Option.some.inj hoptions]

/-- The theme is made of both, and the barrel has its default name. -/
theorem run_configured_partial :
    Request.parse ["-c", "nocode.toml", "pages.json", "out", "--theme-target=out/theme.scss"] =
      .ok (.run configuredArguments) ∧
    ∀ outcome F,
      Executes (run ["-c", "nocode.toml", "pages.json", "out", "--theme-target=out/theme.scss"])
        configuredDisk outcome F ↔
      ∃ r, Executes (compile "pages.json" "out" configuredOptions).run configuredDisk r F ∧
        outcome = .ofResult configuredArguments r ∧
        (outcome.exit = 0 ↔ ∃ report, r = .ok report) := by
  have hparse : Request.parse
      ["-c", "nocode.toml", "pages.json", "out", "--theme-target=out/theme.scss"] =
        .ok (.run configuredArguments) := rfl
  obtain ⟨es, given, hes, hgiven, hoptions⟩ := Arguments.loaded_eq_ok_iff.1 loaded_configuredDisk
  obtain ⟨haccepted, hgivenLayered⟩ := ofEntries_eq_some_iff.1 hgiven
  obtain ⟨-, -, hconfigured⟩ := run_configured hparse configuredDisk
  obtain ⟨options, hlayered, hruns⟩ := hconfigured es hes haccepted
  obtain rfl : options = configuredOptions := by
    rw [← hoptions]
    exact hlayered.unique (hgivenLayered.override configuredArguments)
  exact ⟨hparse, hruns⟩

end CommandLine

end Pagewright
