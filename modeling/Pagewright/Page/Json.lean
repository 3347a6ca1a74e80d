/-
  Pages as JSON.
-/
import Pagewright.Component.Json
import Pagewright.Page.Basic

namespace Pagewright

open Json

/-- The fields of a page, in the order of their declaration. -/
inductive PageField where
  | name | components
  deriving DecidableEq, Repr

/-- The label of a field. -/
def PageField.label : PageField → String
  | name => "pageName"
  | components => "components"

namespace Page

/-! ## Writing -/

/-- A page as JSON. -/
def write (p : Page) : String :=
  writeObject [(PageField.name.label, writeString p.name),
    (PageField.components.label, Component.writeAll p.components)]

/-- A list of pages as JSON. -/
def writeAll (ps : List Page) : String := writeList (ps.map write)

/-! ## Reading -/

/-- The record of a page inside of which `depth` brackets may be opened. -/
def record (depth : Nat) : Record PageField Page where
  name := "struct PageDefinition"
  fields := [.name, .components]
  label := PageField.label
  presence := fun _ => .required
  blank := {}
  read
    | .name, p => fun s => do
      let (name, s) ← readString s
      .ok ({ p with name }, s)
    | .components, p => fun s => do
      let (components, s) ← Component.listReader depth s
      .ok ({ p with components }, s)

/-- Reads a page while `depth` brackets may be opened. -/
def reader : Nat → Reader Page
  | 0 => (record 0).reader false
  | depth + 1 => (record depth).reader true

/-- Reads the pages of a whole text. -/
def listOfJson (source : List Char) : Except Fault (List Page) :=
  readDocument (readList maxDepth reader) source

end Page

end Pagewright
