/-
  The options of a run, and the configuration they may be read from.

  * every option has a default, and a configuration gives those it names;
  * a section is a table, or a list of its fields in order; whatever is missing
    keeps its default, whatever is unknown is passed over.
-/
import Pagewright.Toml.Document

namespace Pagewright

/-- The stylesheet that all pages share, and where a run copies it to. -/
structure Theme where
  source : String := "../src/styles/theme.scss"
  target : String := "../runtime/projects/dynamic-components/src/styles/theme.scss"
  deriving DecidableEq, Repr

/-- The barrel of a run. -/
structure Library where
  moduleName : String := "dynamic-components"
  deriving DecidableEq, Repr

/-- The options of a run. -/
structure Options where
  copyTheme : Bool := true
  theme : Theme := {}
  /-- The theme as stylesheets import it. -/
  themeImport : String := "../../../styles/theme.scss"
  /-- The barrel, if one is wanted. -/
  library : Option Library := none
  deriving DecidableEq, Repr

open Toml

/-! ## Values -/

/-- The value of a text. -/
def Toml.Value.text? : Value → Option String
  | text s => some s
  | _ => none

/-- The value of a flag. -/
def Toml.Value.flag? : Value → Option Bool
  | flag b => some b
  | _ => none

/-- The fields of a section with the given labels, in their order: each with
    its value, if the section gives one.  A date counts as a section that gives
    none. -/
def Toml.Value.section? (labels : List String) : Value → Option (List (Option Value))
  | table _ es => some (labels.map fun l => es.lookup l)
  | list vs => some ((labels.zipIdx).map fun l => vs[l.2]?)
  | tables elements => some ((labels.zipIdx).map fun l => elements[l.2]?.map (.table .header ·))
  | moment _ => some (labels.map fun _ => none)
  | _ => none

/-- A field: its default if it is not given, and nothing if its value is of the
    wrong type. -/
def fieldOr {α : Type} (read : Value → Option α) (default : α) : Option Value → Option α
  | none => some default
  | some v => read v

/-! ## Sections -/

/-- Reads the section of the theme. -/
def Theme.ofToml (v : Value) : Option Theme := do
  match ← v.section? ["source", "target"] with
  | [source, target] =>
    let default : Theme := {}
    some ⟨← fieldOr Value.text? default.source source, ← fieldOr Value.text? default.target target⟩
  | _ => none

/-- Reads the section of the barrel. -/
def Library.ofToml (v : Value) : Option Library := do
  match ← v.section? ["module-name"] with
  | [moduleName] =>
    let default : Library := {}
    some ⟨← fieldOr Value.text? default.moduleName moduleName⟩
  | _ => none

namespace Options

/-- Reads the options that a document gives. -/
def ofEntries (es : Entries) : Option Options := do
  let default : Options := {}
  some {
    copyTheme := ← fieldOr Value.flag? default.copyTheme (es.lookup "copy-theme")
    theme := ← fieldOr Theme.ofToml default.theme (es.lookup "theme")
    themeImport := ← fieldOr Value.text? default.themeImport (es.lookup "theme-import")
    library :=
      ← fieldOr (fun v => some <$> Library.ofToml v) default.library (es.lookup "library") }

/-- Reads options from a configuration. -/
def ofToml (source : String) : Option Options := Toml.parse source >>= ofEntries

end Options

end Pagewright
