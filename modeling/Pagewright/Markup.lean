/-
  Templates of components.

  A template is a list of segments, and each says how far it is trusted: the
  emitter's own markup, a field taken over as it stands, a text of the author,
  or the tag of an unknown component.  Texts and tags are escaped when the
  template is rendered, and nowhere else.

  * `Attributes.shape` gives the form of a component: a block around its
    children, or a leaf with a template of its own;
  * `Component.template` puts the templates of children into their block, one
    below the other and two spaces further in; a child without a template (a
    group of radio buttons without options) takes no line;
  * `renderPage` does the same for the top level of a page.
-/
import Pagewright.Component.Basic
import Pagewright.Text.Blank
import Pagewright.Text.Html
import Pagewright.Text.Script

namespace Pagewright

open Text

/-! ## Segments -/

/-- A piece of a template. -/
inductive Segment where
  /-- Markup of the emitter. -/
  | markup (s : String)
  /-- A field of a component that is taken over as it stands. -/
  | field (s : String)
  /-- A text of the author. -/
  | text (s : String)
  /-- The tag of an unknown component, for the inside of a comment. -/
  | remark (s : String)
  deriving DecidableEq, Repr

/-- A segment as it is written. -/
def Segment.render : Segment → String
  | markup s => s
  | field s => s
  | text s => Html.escape s
  | remark s => Html.escapeComment s

/-- A piece of markup in which each segment has its place. -/
abbrev Template := List Segment

namespace Template

/-- A template as it is written. -/
def render (t : Template) : String := String.join (t.map Segment.render)

@[simp] theorem render_nil : render [] = "" := rfl

theorem toList_render (t : Template) : t.render.toList = t.flatMap fun s => s.render.toList := by
  simp [render, String.toList_join, List.flatMap_map]

theorem render_append (t u : Template) : render (t ++ u) = render t ++ render u := by
  apply String.toList_inj.1
  simp [toList_render]

/-- Templates one after the other, with `separator` between them. -/
def joined (separator : Template) : List Template → Template
  | [] => []
  | [t] => t
  | t :: ts => t ++ separator ++ joined separator ts

/-- The beginning of a line at a depth. -/
def newline (depth : Nat) : Segment := .markup ("\n" ++ indent depth)

end Template

open Template Segment

/-! ## Shapes -/

/-- The form of a component. -/
inductive Shape where
  /-- An element around the children, with its style classes. -/
  | block (element classes : String)
  /-- A template of its own; children are not shown. -/
  | leaf (template : Template)

namespace Attributes

variable (a : Attributes)

/-- The style classes of a component: its id, those of its layout, its own. -/
def classes (layout : List String) : String :=
  let own := trim (a.cssClass.getD "")
  " ".intercalate ([a.id] ++ layout ++ if own = "" then [] else [own])

/-- The class member a form control is bound to. -/
def modelName : String := Script.identifier a.id ++ "Model"

/-- The class member a choice is bound to. -/
def selectedName : String := Script.identifier a.id ++ "Selected"

/-- The class member a box to tick is bound to. -/
def checkedName : String := Script.identifier a.id ++ "Checked"

/-- A text of the author, empty if there is none. -/
def content (s : Option String) : Segment := .text (s.getD "")

/-- A text stands in a paragraph. -/
def paragraph : Template :=
  [markup "<p class=\"", field a.id, markup "\">", content a.text, markup "</p>"]

/-- A button shows its text; a click calls its action, if it has one. -/
def buttonTemplate : Template :=
  [markup "<button class=\"", field (a.classes []), markup "\""] ++
    (match a.action? with
      | some action => [markup " (click)=\"", field action, markup "\""]
      | none => []) ++
    [markup ">", content a.text, markup "</button>"]

/-- An image has a source and a text that stands for it. -/
def imageTemplate : Template :=
  [markup "<img class=\"", field a.id, markup "\" src=\"", field (a.src.getD ""),
    markup "\" alt=\"", content a.alt, markup "\" />"]

/-- An icon is drawn by its style classes, which come before the id. -/
def iconTemplate : Template :=
  match a.iconClass.filter (· ≠ "") with
  | some icon => [markup "<i class=\"", field icon, markup " ", field a.id, markup "\"></i>"]
  | none => [markup "<i class=\"", field a.id, markup "\"></i>"]

/-- A link opens its target in a new window. -/
def linkTemplate : Template :=
  [markup "<a class=\"", field a.id, markup "\" href=\"", field (a.href.getD ""),
    markup "\" target=\"_blank\">", content a.text, markup "</a>"]

/-- A divider is a rule across. -/
def dividerTemplate : Template := [markup "<hr class=\"", field a.id, markup "\" />"]

/-- A bar of progress without a value. -/
def progressTemplate : Template :=
  [markup "<progress class=\"", field a.id, markup "\"></progress>"]

/-- A video has one source, and controls and a start of its own on demand. -/
def videoTemplate : Template :=
  [markup "<video class=\"", field a.id, markup "\"",
    markup (if a.controls then " controls" else ""),
    markup (if a.autoplay then " autoplay" else ""),
    markup "><source src=\"", field (a.src.getD ""), markup "\" type=\"video/mp4\" /></video>"]

/-- A frame shows another document under a title. -/
def iframeTemplate : Template :=
  [markup "<iframe class=\"", field a.id, markup "\" src=\"", field (a.src.getD ""),
    markup "\" title=\"", content a.title, markup "\"></iframe>"]

/-- A list has one element for each item, all on one line. -/
def listTemplate : Template :=
  let element := match a.listKind.getD .unordered with
    | .ordered => "ol"
    | .unordered => "ul"
  [markup ("<" ++ element ++ " class=\""), field a.id, markup "\">"] ++
    a.items.flatMap (fun item => [markup "<li>", .text item, markup "</li>"]) ++
    [markup ("</" ++ element ++ ">")]

/-- One row of a table, every cell in `element`. -/
def rowTemplate (element : String) (cells : List String) : Template :=
  [markup "<tr>"] ++
    cells.flatMap (fun cell =>
      [markup ("<" ++ element ++ ">"), .text cell, markup ("</" ++ element ++ ">")]) ++
    [markup "</tr>"]

/-- A table takes several lines: its parts are one level further in than the
    table, their rows two levels. -/
def tableTemplate (depth : Nat) : Template :=
  [markup "<table class=\"", field a.id, markup "\">",
    newline (depth + 1), markup "<thead>", newline (depth + 2)] ++
    rowTemplate "th" a.headers ++
    [newline (depth + 1), markup "</thead>", newline (depth + 1), markup "<tbody>"] ++
    a.rows.flatMap (fun row => newline (depth + 2) :: rowTemplate "td" row) ++
    [newline (depth + 1), markup "</tbody>", newline depth, markup "</table>"]

/-- A field of one line, for text unless another type is given. -/
def inputTemplate : Template :=
  [markup "<input class=\"", field a.id, markup "\" type=\"", field (a.inputType.getD "text"),
    markup "\" placeholder=\"", content a.placeholder, markup "\" [(ngModel)]=\"",
    field a.modelName, markup "\" />"]

/-- A field of several lines. -/
def textareaTemplate : Template :=
  [markup "<textarea class=\"", field a.id, markup "\" placeholder=\"", content a.placeholder,
    markup "\" [(ngModel)]=\"", field a.modelName, markup "\"></textarea>"]

/-- A choice has one element for each option, and the value of an option is its text. -/
def selectTemplate : Template :=
  [markup "<select class=\"", field a.id, markup "\" [(ngModel)]=\"", field a.selectedName,
    markup "\">"] ++
    a.options.flatMap (fun o =>
      [markup "<option [value]=\"'", .text o, markup "'\">", .text o, markup "</option>"]) ++
    [markup "</select>"]

/-- A box to tick comes before its text. -/
def checkboxTemplate : Template :=
  [markup "<label class=\"", field a.id, markup "\"><input type=\"checkbox\" [(ngModel)]=\"",
    field a.checkedName, markup "\" /> ", content a.text, markup "</label>"]

/-- One button of a group. -/
def radioTemplate (o : String) : Template :=
  [markup "<label class=\"", field a.id, markup "\"><input type=\"radio\" name=\"", field a.id,
    markup "\" [(ngModel)]=\"", field a.selectedName, markup "\" [value]=\"'", .text o,
    markup "'\" /> ", .text o, markup "</label>"]

/-- The buttons of a group, each on a line. -/
def radioGroupTemplate (depth : Nat) : Template :=
  joined [newline depth] (a.options.map a.radioTemplate)

/-- The form of a component at a depth. -/
def shape (depth : Nat) : Shape :=
  match a.kind with
  | .container | .card | .grid | .formGroup | .tabs | .accordion => .block "div" (a.classes [])
  | .section_ => .block "section" (a.classes [])
  | .quickStack => .block "div" (a.classes ["quick-stack", a.direction.getD "row"])
  | .vFlex => .block "div" (a.classes ["v-flex"])
  | .hFlex => .block "div" (a.classes ["h-flex"])
  | .pageSlot => .block "ng-container" (a.classes [])
  | .nav => .block "nav" (a.classes [])
  | .text => .leaf a.paragraph
  | .button => .leaf a.buttonTemplate
  | .image => .leaf a.imageTemplate
  | .icon => .leaf a.iconTemplate
  | .link => .leaf a.linkTemplate
  | .divider => .leaf a.dividerTemplate
  | .progress => .leaf a.progressTemplate
  | .video => .leaf a.videoTemplate
  | .iframe => .leaf a.iframeTemplate
  | .list => .leaf a.listTemplate
  | .table => .leaf (a.tableTemplate depth)
  | .input => .leaf a.inputTemplate
  | .textarea => .leaf a.textareaTemplate
  | .select => .leaf a.selectTemplate
  | .checkbox => .leaf a.checkboxTemplate
  | .radioGroup => .leaf (a.radioGroupTemplate depth)
  | .unknown tag => .leaf [markup "<!-- Unknown component: ", remark tag, markup " -->"]

end Attributes

/-! ## Trees -/

/-- An element around the templates of its children, each on a line one level
    further in.  Without any, it opens and closes on one line. -/
def blockTemplate (depth : Nat) (element classes : String) (children : List Template) : Template :=
  [markup ("<" ++ element ++ " class=\""), field classes, markup "\">"] ++
    (match children.filter (!·.isEmpty) with
      | [] => []
      | shown => shown.flatMap (newline (depth + 1) :: ·) ++ [newline depth]) ++
    [markup ("</" ++ element ++ ">")]

namespace Component

mutual

/-- The template of a component at a depth. -/
def template (depth : Nat) : Component → Template
  | node a cs =>
    match a.shape depth with
    | .block element classes => blockTemplate depth element classes (templates (depth + 1) cs)
    | .leaf t => t

/-- The templates of a list of components, all at one depth. -/
def templates (depth : Nat) : List Component → List Template
  | [] => []
  | c :: cs => template depth c :: templates depth cs

end

theorem templates_eq_map (depth : Nat) (cs : List Component) :
    templates depth cs = cs.map (template depth) := by
  induction cs with
  | nil => rfl
  | cons c cs ih => simp [templates, ih]

/-- The markup of a component at a depth.  The first line is not indented. -/
def render (depth : Nat) (c : Component) : String := (c.template depth).render

/-- The template of the components at the top of a page. -/
def pageTemplate (cs : List Component) : Template :=
  joined [newline 0] ((templates 0 cs).filter (!·.isEmpty))

/-- The markup of the components at the top of a page. -/
def renderPage (cs : List Component) : String := (pageTemplate cs).render

end Component

end Pagewright
