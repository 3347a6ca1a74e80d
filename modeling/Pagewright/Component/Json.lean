/-
  Components as JSON.

  * `ComponentField` names the fields in the order of their declaration;
  * `Component.write` leaves out what is absent, empty or false;
  * `Component.reader` reads a component and, through its children, the whole
    tree; each component and each list of children opens a bracket.
-/
import Pagewright.Component.Basic
import Pagewright.Json.Record
import Pagewright.Json.Write

namespace Pagewright

open Json

/-! ## Fields -/

/-- The fields of a component, in the order of their declaration. -/
inductive ComponentField where
  | kind | id | cssClass | text | placeholder | src | alt | href | title | iconClass | action
  | inputType | listKind | direction | columns | styles | options | items | headers | rows
  | controls | autoplay | children
  deriving DecidableEq, Repr

namespace ComponentField

/-- All fields, in order. -/
def all : List ComponentField :=
  [kind, id, cssClass, text, placeholder, src, alt, href, title, iconClass, action, inputType,
    listKind, direction, columns, styles, options, items, headers, rows, controls, autoplay,
    children]

/-- The label of a field. -/
def label : ComponentField → String
  | kind => "type"
  | id => "id"
  | cssClass => "class"
  | text => "text"
  | placeholder => "placeholder"
  | src => "src"
  | alt => "alt"
  | href => "href"
  | title => "title"
  | iconClass => "iconClass"
  | action => "action"
  | inputType => "inputType"
  | listKind => "listType"
  | direction => "direction"
  | columns => "columns"
  | styles => "styles"
  | options => "options"
  | items => "items"
  | headers => "headers"
  | rows => "rows"
  | controls => "controls"
  | autoplay => "autoplay"
  | children => "children"

/-- Kind and id must be there; collections and flags may be missing anywhere. -/
def presence : ComponentField → Presence
  | kind | id => .required
  | styles | options | items | headers | rows | controls | autoplay | children => .defaulted
  | _ => .optional

end ComponentField

/-! ## Writing -/

/-- The members that say what a component is. -/
def Attributes.members (a : Attributes) : List (String × String) :=
  let optional (label : String) (value : Option String) : List (String × String) :=
    (value.map fun v => (label, v)).toList
  let texts (label : String) (values : List String) : List (String × String) :=
    if values.isEmpty then [] else [(label, writeStrings values)]
  let flag (label : String) (b : Bool) : List (String × String) :=
    if b then [(label, writeBool b)] else []
  [("type", writeString a.kind.tag), ("id", writeString a.id)] ++
    optional "class" (a.cssClass.map writeString) ++
    optional "text" (a.text.map writeString) ++
    optional "placeholder" (a.placeholder.map writeString) ++
    optional "src" (a.src.map writeString) ++
    optional "alt" (a.alt.map writeString) ++
    optional "href" (a.href.map writeString) ++
    optional "title" (a.title.map writeString) ++
    optional "iconClass" (a.iconClass.map writeString) ++
    optional "action" (a.action.map writeString) ++
    optional "inputType" (a.inputType.map writeString) ++
    optional "listType" (a.listKind.map fun k => writeString k.word) ++
    optional "direction" (a.direction.map writeString) ++
    optional "columns" (a.columns.map fun n => toString n.toNat) ++
    (if a.styles.isEmpty then []
      else [("styles", writeObject (a.styles.entries.map fun p => (p.1, writeString p.2)))]) ++
    texts "options" a.options ++
    texts "items" a.items ++
    texts "headers" a.headers ++
    (if a.rows.isEmpty then [] else [("rows", writeList (a.rows.map writeStrings))]) ++
    flag "controls" a.controls ++
    flag "autoplay" a.autoplay

namespace Component

mutual

/-- A component as JSON. -/
def write : Component → String
  | node a cs =>
    writeObject (a.members ++ if cs.isEmpty then [] else [("children", writeList (writeEach cs))])

/-- Components as JSON, each on its own. -/
def writeEach : List Component → List String
  | [] => []
  | c :: cs => write c :: writeEach cs

end

theorem writeEach_eq_map (cs : List Component) : writeEach cs = cs.map write := by
  induction cs with
  | nil => rfl
  | cons c cs ih => simp [writeEach, ih]

/-- A list of components as JSON. -/
def writeAll (cs : List Component) : String := writeList (cs.map write)

end Component

/-! ## Reading -/

/-- Reads a field that is kept with the attributes. -/
def Component.readAttribute {α : Type} (r : Reader α) (set : Attributes → α → Attributes) :
    Component → Reader Component := fun c s => do
  let (v, s) ← r s
  .ok (c.modify (set · v), s)

/-- Reads a field of a component inside of which `depth` brackets may be
    opened; `readChildren` reads the children. -/
def ComponentField.read (depth : Nat) (readChildren : Reader (List Component)) :
    ComponentField → Component → Reader Component
  | kind => Component.readAttribute readString fun a s => { a with kind := Kind.ofTag s }
  | id => Component.readAttribute readString fun a s => { a with id := s }
  | cssClass => Component.readAttribute (readOption readString) fun a v => { a with cssClass := v }
  | text => Component.readAttribute (readOption readString) fun a v => { a with text := v }
  | placeholder =>
    Component.readAttribute (readOption readString) fun a v => { a with placeholder := v }
  | src => Component.readAttribute (readOption readString) fun a v => { a with src := v }
  | alt => Component.readAttribute (readOption readString) fun a v => { a with alt := v }
  | href => Component.readAttribute (readOption readString) fun a v => { a with href := v }
  | title => Component.readAttribute (readOption readString) fun a v => { a with title := v }
  | iconClass =>
    Component.readAttribute (readOption readString) fun a v => { a with iconClass := v }
  | action => Component.readAttribute (readOption readString) fun a v => { a with action := v }
  | inputType =>
    Component.readAttribute (readOption readString) fun a v => { a with inputType := v }
  | listKind =>
    Component.readAttribute
      (readOption (readVariant depth
        [(ListKind.ordered.word, .ordered), (ListKind.unordered.word, .unordered)]))
      fun a v => { a with listKind := v }
  | direction =>
    Component.readAttribute (readOption readString) fun a v => { a with direction := v }
  | columns => Component.readAttribute (readOption readUInt32) fun a v => { a with columns := v }
  | styles =>
    Component.readAttribute (readMap depth Styles.empty Styles.insert)
      fun a v => { a with styles := v }
  | options => Component.readAttribute (readStrings depth) fun a v => { a with options := v }
  | items => Component.readAttribute (readStrings depth) fun a v => { a with items := v }
  | headers => Component.readAttribute (readStrings depth) fun a v => { a with headers := v }
  | rows => Component.readAttribute (readList depth readStrings) fun a v => { a with rows := v }
  | controls => Component.readAttribute readBool fun a v => { a with controls := v }
  | autoplay => Component.readAttribute readBool fun a v => { a with autoplay := v }
  | children => fun c s => do
    let (cs, s) ← readChildren s
    .ok (.node c.attrs cs, s)

namespace Component

/-- The record of a component inside of which `depth` brackets may be opened. -/
def record (depth : Nat) (readChildren : Reader (List Component)) :
    Record ComponentField Component where
  name := "struct ComponentDefinition"
  fields := ComponentField.all
  label := ComponentField.label
  presence := ComponentField.presence
  blank := .node {} []
  read := ComponentField.read depth readChildren

mutual

/-- Reads a component while `depth` brackets may be opened. -/
def reader (depth : Nat) : Reader Component :=
  match depth with
  | 0 => (record 0 (readList 0 fun _ => fun s => .error ⟨.tooDeep, s, 0⟩)).reader false
  | depth + 1 => (record depth (listReader depth)).reader true

/-- Reads a list of components while `depth` brackets may be opened. -/
def listReader (depth : Nat) : Reader (List Component) :=
  match depth with
  | 0 => readList 0 fun _ => fun s => .error ⟨.tooDeep, s, 0⟩
  | depth + 1 => readList (depth + 1) fun _ => reader depth

end

/-- Reads a component from a whole text. -/
def ofJson (source : List Char) : Except Fault Component := readDocument (reader maxDepth) source

/-- Reads a list of components from a whole text. -/
def listOfJson (source : List Char) : Except Fault (List Component) :=
  readDocument (listReader maxDepth) source

end Component

end Pagewright
