/-
  Which fields can open or close a tag.

  The angle brackets of a page are those of the emitter and those of the fields that
  are taken over as they stand.

  * `Attributes.skeleton` leaves of these fields what `keep` keeps, nothing of all
    other texts, and of lists their length;
  * `angles_template_skeleton`: if the brackets are kept, the markup has the same
    brackets;
  * `brackets_differ`: if nothing is kept it need not, whichever of the fields it is;
  * `angles_renderPage`: so the brackets of a page are determined by its kinds, its
    form and the brackets of these fields.
-/
import Pagewright.Proofs.Markup.Pieces
import Pagewright.Proofs.Markup.Leaves
import Pagewright.Validation.Basic
import Mathlib.Data.List.Basic

namespace Pagewright

open Template Segment

/-! ## Brackets -/

namespace Html

/-- Whether a character opens or closes a tag. -/
def isAngle (c : Char) : Bool := c = '<' || c = '>'

/-- The angle brackets of a text, in order. -/
def angles (s : String) : List Char := s.toList.filter isAngle

/-- A text of which only the angle brackets are left. -/
def onlyAngles (s : String) : String := String.ofList (angles s)

theorem angles_append (s t : String) : angles (s ++ t) = angles s ++ angles t := by
  simp [angles]

@[simp] theorem angles_onlyAngles (s : String) : angles (onlyAngles s) = angles s := by
  simp [angles, onlyAngles]

theorem isReserved_of_isAngle {c : Char} (h : isAngle c) : isReserved c := by
  simp only [isAngle, Bool.or_eq_true, decide_eq_true_eq] at h
  rcases h with rfl | rfl <;> decide

/-- An escaped text has no angle brackets. -/
@[simp] theorem angles_escape (s : String) : angles (escape s) = [] := by
  refine List.filter_eq_nil_iff.2 fun c hc h => ?_
  rw [toList_escape] at hc
  exact not_mem_escapeChars (isReserved_of_isAngle h) _ hc

@[simp] theorem angles_escapeComment (s : String) : angles (escapeComment s) = [] :=
  List.filter_eq_nil_iff.2 fun _ hc h => not_mem_escapeComment (isReserved_of_isAngle h) s hc

end Html

open Html

/-! ## Templates -/

/-- The angle brackets of a template, in order. -/
def Template.angles (t : Template) : List Char := t.flatMap fun s => Html.angles s.render

namespace Template

theorem angles_render (t : Template) : Html.angles t.render = t.angles := by
  simp only [Html.angles, toList_render, List.filter_flatMap, Template.angles]

@[simp] theorem angles_nil : angles [] = [] := rfl

section
variable (s : String) (t u : Template) (d : Nat)

@[simp] theorem angles_markup : angles (markup s :: t) = Html.angles s ++ t.angles := rfl

@[simp] theorem angles_field : angles (field s :: t) = Html.angles s ++ t.angles := rfl

@[simp] theorem angles_text : angles (text s :: t) = t.angles := by
  rw [angles, List.flatMap_cons, render_text, angles_escape]
  rfl

@[simp] theorem angles_content (o : Option String) :
    angles (Attributes.content o :: t) = t.angles := angles_text (o.getD "") t

@[simp] theorem angles_remark : angles (remark s :: t) = t.angles := by
  rw [angles, List.flatMap_cons, render_remark, angles_escapeComment]
  rfl

@[simp] theorem angles_newline : angles (newline d :: t) = t.angles := by
  have hline : Html.angles (newline d).render = [] := by
    rw [Html.angles, toList_render_newline]
    simp [isAngle]
  rw [angles, List.flatMap_cons, hline]
  rfl

@[simp] theorem angles_append : angles (t ++ u) = t.angles ++ u.angles := by
  simp [angles]

@[simp] theorem angles_flatMap {α : Type} (f : α → Template) (xs : List α) :
    angles (xs.flatMap f) = xs.flatMap fun x => (f x).angles := by
  simp [angles, List.flatMap_assoc]

end

/-- Lines between templates bring no brackets. -/
@[simp] theorem angles_joined (d : Nat) : ∀ ts : List Template,
    angles (joined [newline d] ts) = ts.flatMap angles
  | [] => rfl
  | [t] => by simp [joined]
  | t :: u :: us => by
    have ih := angles_joined d (u :: us)
    simp [joined, ih]

/-- Nor do templates that take no line. -/
theorem flatMap_angles_filter (ts : List Template) :
    (ts.filter (!·.isEmpty)).flatMap angles = ts.flatMap angles := by
  induction ts with
  | nil => rfl
  | cons t ts ih =>
    cases t with
    | nil => simpa using ih
    | cons s t => simp [ih]

end Template

/-! ## Skeletons -/

/-- A kind; of an unknown one no tag is left. -/
def Kind.skeleton : Kind → Kind
  | .unknown _ => .unknown ""
  | k => k

/-- What a component says of itself with all texts left empty, and with what `keep`
    leaves of the fields that are written as they stand.  Lists keep their length, and
    a field that is missing is still missing. -/
def Attributes.skeleton (keep : String → String) (a : Attributes) : Attributes where
  kind := a.kind.skeleton
  id := keep a.id
  cssClass := a.cssClass.map keep
  text := a.text.map fun _ => ""
  placeholder := a.placeholder.map fun _ => ""
  src := a.src.map keep
  alt := a.alt.map fun _ => ""
  href := a.href.map keep
  title := a.title.map fun _ => ""
  iconClass := a.iconClass.map keep
  action := a.action.map keep
  inputType := a.inputType.map keep
  direction := a.direction.map keep
  options := a.options.map fun _ => ""
  items := a.items.map fun _ => ""
  headers := a.headers.map fun _ => ""
  rows := a.rows.map fun row => row.map fun _ => ""

namespace Component

mutual

/-- A tree of which every component is a skeleton. -/
def skeleton (keep : String → String) : Component → Component
  | node a cs => node (a.skeleton keep) (skeletonAll keep cs)

/-- Trees of which every component is a skeleton. -/
def skeletonAll (keep : String → String) : List Component → List Component
  | [] => []
  | c :: cs => skeleton keep c :: skeletonAll keep cs

end

theorem skeletonAll_eq_map (keep : String → String) (cs : List Component) :
    skeletonAll keep cs = cs.map (skeleton keep) := by
  induction cs with
  | nil => rfl
  | cons c cs ih => simp [skeletonAll, ih]

end Component

/-! ## Shapes -/

namespace Html

theorem angles_intercalate {separator : String} (h : angles separator = []) :
    ∀ ss : List String, angles (separator.intercalate ss) = ss.flatMap angles
  | [] => by simp [angles]
  | [s] => by simp [String.intercalate_singleton]
  | s :: t :: ss => by
    have ih := angles_intercalate h (t :: ss)
    rw [String.intercalate_cons_cons, angles_append, angles_append, h, ih]
    simp

/-- The white space at the two ends of a text brings no brackets. -/
@[simp] theorem angles_trim (s : String) : angles (Text.trim s) = angles s := by
  have hdrop : ∀ cs : List Char,
      (cs.dropWhile Text.isBlank).filter isAngle = cs.filter isAngle := by
    intro cs
    induction cs with
    | nil => rfl
    | cons c cs ih =>
      by_cases hc : Text.isBlank c
      · have hangle : ¬isAngle c := by
          intro h
          simp only [isAngle, Bool.or_eq_true, decide_eq_true_eq] at h
          rcases h with rfl | rfl <;> exact absurd hc (by decide)
        rw [List.dropWhile_cons_of_pos hc, List.filter_cons_of_neg hangle, ih]
      · rw [List.dropWhile_cons_of_neg hc]
  simp only [angles, Text.trim, Text.trimChars, String.toList_ofList, List.filter_reverse, hdrop,
    List.reverse_reverse]

/-- A text of characters of identifiers has no brackets. -/
theorem angles_of_identifier {s : String} (h : ∀ c ∈ s.toList, Script.isIdentifierChar c) :
    angles s = [] := by
  refine List.filter_eq_nil_iff.2 fun c hc hangle => ?_
  simp only [isAngle, Bool.or_eq_true, decide_eq_true_eq] at hangle
  rcases hangle with rfl | rfl <;> exact absurd (h _ hc) (by decide)

@[simp] theorem angles_getD_onlyAngles (o : Option String) (s : String) :
    angles ((o.map onlyAngles).getD s) = angles (o.getD s) := by
  cases o <;> simp

end Html

/-- The brackets of a shape around children with the brackets `inner`. -/
def Shape.angles (inner : List Char) : Shape → List Char
  | .block element classes =>
    Html.angles ("<" ++ element ++ " class=\"") ++ Html.angles classes ++ ['>'] ++ inner ++
      Html.angles ("</" ++ element ++ ">")
  | .leaf t => t.angles

namespace Attributes

variable (a : Attributes)

theorem angles_classes (layout : List String) :
    Html.angles (a.classes layout) =
      Html.angles a.id ++ layout.flatMap Html.angles ++ Html.angles (a.cssClass.getD "") := by
  have hown : (if Text.trim (a.cssClass.getD "") = "" then []
      else [Text.trim (a.cssClass.getD "")]).flatMap Html.angles =
        Html.angles (a.cssClass.getD "") := by
    split_ifs with hnone
    · rw [← Html.angles_trim, hnone]
      rfl
    · simp
  rw [classes, angles_intercalate (by decide)]
  simp [hown]

/-- An action that is empty is left out, but it has no brackets either. -/
theorem angles_buttonTemplate :
    a.buttonTemplate.angles =
      Html.angles "<button class=\"" ++ Html.angles (a.classes []) ++
        Html.angles (a.action.getD "") ++ Html.angles ">" ++ Html.angles "</button>" := by
  have haction : Html.angles (a.action?.getD "") = Html.angles (a.action.getD "") := by
    unfold action?
    cases a.action with
    | none => rfl
    | some s => by_cases hs : s = "" <;> simp [Option.filter, hs]
  have hclick : Html.angles "" = [] ∧ Html.angles "\"" = [] ∧ Html.angles " (click)=\"" = [] := by
    decide
  rw [buttonTemplate, ← haction]
  cases a.action? <;> simp [hclick]

/-- So it is with the style classes of an icon. -/
theorem angles_iconTemplate :
    a.iconTemplate.angles =
      Html.angles "<i class=\"" ++ Html.angles (a.iconClass.getD "") ++ Html.angles a.id ++
        Html.angles "\"></i>" := by
  have hblank : Html.angles "" = [] ∧ Html.angles " " = [] := by decide
  rw [iconTemplate]
  cases a.iconClass with
  | none => simp [hblank]
  | some s => by_cases hs : s = "" <;> simp [Option.filter, hs, hblank]

@[simp] theorem angles_modelName : Html.angles a.modelName = [] :=
  angles_of_identifier fun _ => isIdentifierChar_of_mem_modelName

@[simp] theorem angles_selectedName : Html.angles a.selectedName = [] :=
  angles_of_identifier fun _ => isIdentifierChar_of_mem_selectedName

@[simp] theorem angles_checkedName : Html.angles a.checkedName = [] :=
  angles_of_identifier fun _ => isIdentifierChar_of_mem_checkedName

/-- The flags of a video bring no brackets. -/
theorem angles_videoTemplate :
    a.videoTemplate.angles =
      Html.angles "<video class=\"" ++ Html.angles a.id ++ Html.angles "><source src=\"" ++
        Html.angles (a.src.getD "") ++ Html.angles "\" type=\"video/mp4\" /></video>" := by
  have hquote : Html.angles "\"" = [] := by decide
  have hcontrols : ∀ b : Bool, Html.angles (if b then " controls" else "") = [] := by decide
  have hautoplay : ∀ b : Bool, Html.angles (if b then " autoplay" else "") = [] := by decide
  simp [videoTemplate, hquote, hcontrols, hautoplay]

/-- The brackets of a list are the same with numbers and without. -/
theorem angles_listTemplate :
    a.listTemplate.angles =
      Html.angles "<ul class=\"" ++ Html.angles a.id ++ Html.angles "\">" ++
        a.items.flatMap (fun _ => Html.angles "<li>" ++ Html.angles "</li>") ++
        Html.angles "</ul>" := by
  rw [listTemplate]
  cases a.listKind.getD .unordered with
  | ordered =>
    have hopen : Html.angles "<ol class=\"" = Html.angles "<ul class=\"" := by decide
    have hclose : Html.angles "</ol>" = Html.angles "</ul>" := by decide
    simp [hopen, hclose]
  | unordered => simp

theorem angles_rowTemplate (element : String) (cells : List String) :
    (rowTemplate element cells).angles =
      Html.angles "<tr>" ++
        cells.flatMap (fun _ =>
          Html.angles ("<" ++ element ++ ">") ++ Html.angles ("</" ++ element ++ ">")) ++
        Html.angles "</tr>" := by
  simp [rowTemplate]

/-- The brackets of a shape are those of its skeleton. -/
theorem angles_shape_skeleton (d : Nat) (inner : List Char) :
    ((a.skeleton onlyAngles).shape d).angles inner = (a.shape d).angles inner := by
  have hclasses : ∀ layout : List String,
      Html.angles ((a.skeleton onlyAngles).classes layout) = Html.angles (a.classes layout) := by
    intro layout
    simp [angles_classes, skeleton]
  unfold shape
  rw [show (a.skeleton onlyAngles).kind = a.kind.skeleton from rfl]
  cases a.kind <;> simp only [Kind.skeleton, Shape.angles, hclasses]
  case quickStack => simp [angles_classes, skeleton]
  case button =>
    rw [angles_buttonTemplate, angles_buttonTemplate, hclasses]
    simp [skeleton]
  case icon => simp [angles_iconTemplate, skeleton]
  case list => simp [angles_listTemplate, skeleton, List.flatMap_map, -List.map_const']
  case table =>
    simp [tableTemplate, angles_rowTemplate, skeleton, List.flatMap_map, -List.map_const']
  case radioGroup =>
    simp [radioGroupTemplate, radioTemplate, skeleton, List.flatMap_map, -List.map_const']
  case select => simp [selectTemplate, skeleton, List.flatMap_map, -List.map_const']
  case text => simp [paragraph, skeleton]
  case image => simp [imageTemplate, skeleton]
  case link => simp [linkTemplate, skeleton]
  case divider => simp [dividerTemplate, skeleton]
  case progress => simp [progressTemplate, skeleton]
  case video => simp [angles_videoTemplate, skeleton]
  case iframe => simp [iframeTemplate, skeleton]
  case input => simp [inputTemplate, skeleton]
  case textarea => simp [textareaTemplate, skeleton]
  case checkbox => simp [checkboxTemplate, skeleton]
  case unknown => simp

end Attributes

/-! ## Pages -/

namespace Component

/-- The brackets of a component: those of its shape around those of its children. -/
theorem angles_template (a : Attributes) (cs : List Component) (d : Nat) :
    ((node a cs).template d).angles =
      (a.shape d).angles (cs.flatMap fun c => (c.template (d + 1)).angles) := by
  rw [template]
  cases a.shape d with
  | leaf t => rfl
  | block element classes =>
    have hlines : (blockLines d ((templates (d + 1) cs).filter (!·.isEmpty))).angles =
        cs.flatMap fun c => (c.template (d + 1)).angles := by
      rw [templates_eq_map, ← List.flatMap_map, ← flatMap_angles_filter]
      unfold blockLines
      split_ifs with hnone
      · rw [hnone]
        rfl
      · simp
    have hclose : Html.angles "\">" = ['>'] := by decide
    simp only [blockTemplate_eq, Template.angles_append, hlines, Template.blockStart,
      Template.blockEnd, angles_markup, angles_field, angles_nil, hclose, Shape.angles,
      List.append_assoc, List.append_nil]

/-- **A component has the brackets of its skeleton.** -/
theorem angles_template_skeleton (c : Component) :
    ∀ d, ((c.skeleton onlyAngles).template d).angles = (c.template d).angles := by
  induction c with
  | node a cs ih =>
    intro d
    rw [skeleton, skeletonAll_eq_map, angles_template, angles_template,
      Attributes.angles_shape_skeleton, List.flatMap_map]
    exact congrArg (fun inner => (a.shape d).angles inner.flatten) <|
      List.map_congr_left fun c hc => ih c hc (d + 1)

theorem angles_pageTemplate (cs : List Component) :
    (pageTemplate cs).angles = cs.flatMap fun c => (c.template 0).angles := by
  rw [pageTemplate, templates_eq_map, angles_joined, flatMap_angles_filter, List.flatMap_map]

/-- **The brackets of a page are determined by its kinds, its form and the brackets of
    the fields that are written as they stand.** -/
theorem angles_renderPage (cs cs' : List Component)
    (h : skeletonAll onlyAngles cs = skeletonAll onlyAngles cs') :
    Html.angles (renderPage cs) = Html.angles (renderPage cs') := by
  have hskeleton : ∀ cs, Html.angles (renderPage cs) =
      (pageTemplate (skeletonAll onlyAngles cs)).angles := by
    intro cs
    rw [renderPage, angles_render, angles_pageTemplate, angles_pageTemplate, skeletonAll_eq_map,
      List.flatMap_map]
    exact congrArg List.flatten <|
      List.map_congr_left fun c _ => (angles_template_skeleton c 0).symm
  rw [hskeleton, hskeleton, h]

/-- A card with a text and a picture, and an unknown component. -/
def calmPage : List Component :=
  [.node { kind := .card, id := "c><d", cssClass := some "wide" }
    [.node { kind := .text, id := "t", text := some "Hello" } [],
      .node { kind := .image, id := "i", src := some "a.png", alt := some "" } []],
    .node { kind := .unknown "slider", id := "s" } []]

/-- The same form with another name and class, and with brackets in the texts. -/
def loudPage : List Component :=
  [.node { kind := .card, id := "x><y", cssClass := some "narrow" }
    [.node { kind := .text, id := "t", text := some "</p><script>" } [],
      .node { kind := .image, id := "i", src := some "a.png", alt := some "\"><b" } []],
    .node { kind := .unknown "--><b>", id := "s" } []]

theorem skeletonAll_loudPage :
    skeletonAll onlyAngles calmPage = skeletonAll onlyAngles loudPage := by
  have hid : onlyAngles "c><d" = onlyAngles "x><y" := congrArg String.ofList (by decide)
  have hclass : onlyAngles "wide" = onlyAngles "narrow" := congrArg String.ofList (by decide)
  simp [calmPage, loudPage, skeletonAll, skeleton, Attributes.skeleton, Kind.skeleton, hid, hclass]

/-- Brackets in texts and in unknown tags leave the brackets of the page as they are. -/
theorem angles_renderPage_loudPage :
    skeletonAll onlyAngles calmPage = skeletonAll onlyAngles loudPage ∧
    Html.angles (renderPage calmPage) = Html.angles (renderPage loudPage) :=
  ⟨skeletonAll_loudPage, angles_renderPage calmPage loudPage skeletonAll_loudPage⟩

end Component

/-! ## Fields that are written as they stand -/

/-- Whether action, source and target of a component can neither end the attribute
    that they are written in nor a tag. -/
def Attributes.hasTameTargets (a : Attributes) : Bool :=
  [a.action, a.src, a.href].all fun field =>
    (field.getD "").toList.all fun c => !(c = '<' || c = '>' || c = '"')

/-- Components that differ in one field only: an id, a style class, a direction, the
    style classes of an icon, and the type of a field. -/
def markedPairs : List (Attributes × Attributes) :=
  [({ kind := .text, id := "t" }, { kind := .text, id := "x><b" }),
    ({ kind := .card, id := "c", cssClass := some "k" },
      { kind := .card, id := "c", cssClass := some "\"><b" }),
    ({ kind := .quickStack, id := "q", direction := some "row" },
      { kind := .quickStack, id := "q", direction := some "\"><b" }),
    ({ kind := .icon, id := "i", iconClass := some "i" },
      { kind := .icon, id := "i", iconClass := some "\"><b" }),
    ({ kind := .input, id := "n", inputType := some "text" },
      { kind := .input, id := "n", inputType := some "\"><b" })]

/-- **Each of these fields can open and close a tag.**  The two pages of a pair are
    accepted, they trust no markup, and nothing but the field tells them apart, but
    they differ in their brackets. -/
theorem brackets_differ :
    markedPairs.Forall fun p =>
      (Page.validate [⟨"p", [.node p.1 []]⟩] = [] ∧ p.1.hasTameTargets) ∧
      (Page.validate [⟨"p", [.node p.2 []]⟩] = [] ∧ p.2.hasTameTargets) ∧
      p.1.skeleton (fun _ => "") = p.2.skeleton (fun _ => "") ∧
      Html.angles (Component.renderPage [.node p.1 []]) ≠
        Html.angles (Component.renderPage [.node p.2 []]) := by
  simp only [Component.renderPage, angles_render]
  decide +kernel

end Pagewright
