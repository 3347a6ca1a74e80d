/-
  The forest of a tree of components, told without any markup.

  * `Attributes.outline` says what a component is read as: an element around
    its children, or nodes of its own, in which the texts of the author stand
    as they were given;
  * `Component.forest` puts the forests of children into their element, in
    order;
  * `Component.shown` lists the components that take part in it, and
    `Attributes.verbatim` the fields of a component that its attributes take
    over as they stand.
-/
import Pagewright.Markup
import Pagewright.Proofs.Markup.Document

namespace Pagewright

open Markup

/-! ## Components -/

/-- What a component is read as. -/
inductive Outline where
  /-- One element around the children. -/
  | around (tag classes : String)
  /-- Nodes of its own; children are not shown. -/
  | nodes (ns : List Node)

namespace Markup

/-- The attribute of a name with a value. -/
def attr (name value : String) : Attr := ⟨name, some value⟩

/-- An element with nothing but a text in it. -/
def textElement (tag : String) (attrs : List Attr) (s : String) : Node :=
  .element tag attrs (textNodes s)

/-- A row of a table, every cell in `tag`. -/
def row (tag : String) (cells : List String) : Node :=
  .element "tr" [] (cells.map (textElement tag []))

end Markup

namespace Attributes

variable (a : Attributes)

/-- The attribute that every element of a component has. -/
def idClass : Attr := attr "class" a.id

/-- The button of an option. -/
def radioNode (o : String) : Node :=
  .element "label" [a.idClass]
    [.element "input" [attr "type" "radio", attr "name" a.id, attr "[(ngModel)]" a.selectedName,
      attr "[value]" ("'" ++ o ++ "'")] [], .text (" " ++ o)]

/-- The table: a head with one row, and a body with the others. -/
def tableNode : Node :=
  .element "table" [a.idClass]
    [.element "thead" [] [row "th" a.headers], .element "tbody" [] (a.rows.map (row "td"))]

/-- What a component is read as. -/
def outline : Outline :=
  match a.kind with
  | .container | .card | .grid | .formGroup | .tabs | .accordion => .around "div" (a.classes [])
  | .section_ => .around "section" (a.classes [])
  | .nav => .around "nav" (a.classes [])
  | .quickStack => .around "div" (a.classes ["quick-stack", a.direction.getD "row"])
  | .vFlex => .around "div" (a.classes ["v-flex"])
  | .hFlex => .around "div" (a.classes ["h-flex"])
  | .pageSlot => .around "ng-container" (a.classes [])
  | .text => .nodes [textElement "p" [a.idClass] (a.text.getD "")]
  | .button =>
    .nodes [textElement "button"
      (attr "class" (a.classes []) :: (a.action?.map (attr "(click)")).toList) (a.text.getD "")]
  | .image =>
    .nodes [.element "img" [a.idClass, attr "src" (a.src.getD ""), attr "alt" (a.alt.getD "")] []]
  | .icon =>
    .nodes [.element "i"
      [match a.iconClass.filter (· ≠ "") with
        | some icon => attr "class" (icon ++ " " ++ a.id)
        | none => a.idClass] []]
  | .link =>
    .nodes [textElement "a" [a.idClass, attr "href" (a.href.getD ""), attr "target" "_blank"]
      (a.text.getD "")]
  | .divider => .nodes [.element "hr" [a.idClass] []]
  | .progress => .nodes [.element "progress" [a.idClass] []]
  | .video =>
    .nodes [.element "video"
      (a.idClass :: ((if a.controls then [⟨"controls", none⟩] else []) ++
        if a.autoplay then [⟨"autoplay", none⟩] else []))
      [.element "source" [attr "src" (a.src.getD ""), attr "type" "video/mp4"] []]]
  | .iframe =>
    .nodes [.element "iframe"
      [a.idClass, attr "src" (a.src.getD ""), attr "title" (a.title.getD "")] []]
  | .list =>
    .nodes [.element (match a.listKind with | some .ordered => "ol" | _ => "ul") [a.idClass]
      (a.items.map (textElement "li" []))]
  | .table => .nodes [a.tableNode]
  | .input =>
    .nodes [.element "input" [a.idClass, attr "type" (a.inputType.getD "text"),
      attr "placeholder" (a.placeholder.getD ""), attr "[(ngModel)]" a.modelName] []]
  | .textarea =>
    .nodes [.element "textarea" [a.idClass, attr "placeholder" (a.placeholder.getD ""),
      attr "[(ngModel)]" a.modelName] []]
  | .select =>
    .nodes [.element "select" [a.idClass, attr "[(ngModel)]" a.selectedName]
      (a.options.map fun o => textElement "option" [attr "[value]" ("'" ++ o ++ "'")] o)]
  | .checkbox =>
    .nodes [.element "label" [a.idClass]
      [.element "input" [attr "type" "checkbox", attr "[(ngModel)]" a.checkedName] [],
        .text (" " ++ a.text.getD "")]]
  | .radioGroup => .nodes (a.options.map a.radioNode)
  | .unknown tag => .nodes [.comment (" Unknown component: " ++ Html.escapeComment tag ++ " ")]

/-- The fields of a component that its attributes take over as they stand. -/
def verbatim : List String :=
  match a.kind with
  | .container | .card | .grid | .formGroup | .tabs | .accordion | .section_ | .nav | .vFlex
  | .hFlex | .pageSlot => a.id :: a.cssClass.toList
  | .quickStack => a.id :: a.cssClass.toList ++ a.direction.toList
  | .button => a.id :: a.cssClass.toList ++ a.action?.toList
  | .image | .video | .iframe => a.id :: a.src.toList
  | .icon => a.id :: a.iconClass.toList
  | .link => a.id :: a.href.toList
  | .input => a.id :: a.inputType.toList
  | .radioGroup => if a.options.isEmpty then [] else [a.id]
  | .text | .divider | .progress | .list | .table | .textarea | .select | .checkbox => [a.id]
  | .unknown _ => []

end Attributes

/-! ## Trees -/

namespace Component

mutual

/-- The forest of a component. -/
def forest : Component → List Node
  | node a cs =>
    match a.outline with
    | .around tag classes => [.element tag [attr "class" classes] (forests cs)]
    | .nodes ns => ns

/-- The forest of a list of components, one after the other. -/
def forests : List Component → List Node
  | [] => []
  | c :: cs => forest c ++ forests cs

end

mutual

/-- The components that take part in a forest: children inside a component that
    is read as nodes of its own do not. -/
def shown : Component → List Attributes
  | node a cs =>
    match a.outline with
    | .around _ _ => a :: shownAll cs
    | .nodes _ => [a]

/-- The components of a list that take part in its forest. -/
def shownAll : List Component → List Attributes
  | [] => []
  | c :: cs => shown c ++ shownAll cs

end

theorem forests_eq_flatMap (cs : List Component) : forests cs = cs.flatMap forest := by
  induction cs with
  | nil => rfl
  | cons c cs ih => simp [forests, ih]

theorem shownAll_eq_flatMap (cs : List Component) : shownAll cs = cs.flatMap shown := by
  induction cs with
  | nil => rfl
  | cons c cs ih => simp [shownAll, ih]

end Component

end Pagewright
