/-
  What a click on a button calls.

  * `preorder_prune`, `encloses_of_mem_shown`: a component that is shown stands in its
    page with nothing but blocks around it, so its markup is found in that of the page;
  * `render_button`: a button with an action, as it is written;
  * `click_of_button`: the action of a button stands in the markup of its page, and its
    method on a line of the class.  The one calls the other if the action is a name
    with an empty list behind it; otherwise it calls nothing, or nothing is declared.
-/
import Pagewright.Proofs.Markup.Children
import Pagewright.Proofs.Page.Properties
import Pagewright.Proofs.Text.Calls

namespace Pagewright

open Text Template Segment Script

/-! ## Markup of what is shown -/

namespace Component

/-- What `prune` leaves is what is shown. -/
theorem preorder_prune (c : Component) : (prune c).preorder = c.shown := by
  induction c with
  | node a cs ih =>
    rw [prune, preorder]
    cases hs : a.shape 0 with
    | block element classes =>
      rw [if_pos (Attributes.isBlock_of_block hs), shown_of_block hs, pruneAll_eq_map,
        preorderAll_eq_flatMap, shownAll_eq_flatMap, List.flatMap_map, List.flatMap_congr ih]
    | leaf t =>
      have hleaf : ¬a.kind.isBlock := by
        rw [Attributes.isBlock_iff (d := 0), hs]
        simp
      rw [if_neg hleaf, shown_of_leaf hs]
      rfl

/-- A component that is shown stands in its page, with nothing but blocks around it. -/
theorem encloses_of_mem_shown {a : Attributes} {cs : List Component} (h : a ∈ shownAll cs) :
    ∃ c ∈ cs, ∃ e bs, Encloses 0 c e (node a bs) := by
  rw [shownAll_eq_flatMap] at h
  obtain ⟨c, hc, ha⟩ := List.mem_flatMap.1 h
  rw [← preorder_prune] at ha
  exact ⟨c, hc, encloses_of_mem_prune c ha 0⟩

/-- A button with an action. -/
theorem render_button {a : Attributes} (hbutton : a.kind = .button) {action : String}
    (haction : a.action? = some action) (d : Nat) (bs : List Component) :
    (node a bs).render d =
      "<button class=\"" ++ a.classes [] ++ "\" (click)=\"" ++ action ++ "\">" ++
        Html.escape (a.text.getD "") ++ "</button>" := by
  have hshape : a.shape d = .leaf a.buttonTemplate := by simp [Attributes.shape, hbutton]
  rw [render, template_of_leaf hshape, Attributes.buttonTemplate, haction]
  simp [← String.toList_inj, toList_render, Segment.render, Attributes.content]

end Component

/-! ## Actions -/

section
variable {name : String} {arguments : Option String} (hname : IsName name)
include hname

theorem action?_callText {a : Attributes} (h : a.action = some (callText name arguments)) :
    a.action? = some (callText name arguments) := by
  have hne : callText name arguments ≠ "" := by
    cases arguments with
    | none => exact hname.word.1
    | some s => simp [callText]
  rw [Attributes.action?, h, Option.filter_some, if_pos (decide_eq_true hne)]

/-- A call is as free of double quotes as what stands between its brackets. -/
theorem quote_not_mem_callText (h : ∀ s ∈ arguments, '"' ∉ s.toList) :
    '"' ∉ (callText name arguments).toList := by
  have hword : '"' ∉ name.toList := fun hquote => absurd (hname.word.2 _ hquote) (by decide)
  cases arguments with
  | none => exact hword
  | some s => simp [callText, hword, h s rfl]

end

/-! ## Clicks -/

namespace Page

open Component Markup.Node

/-- **What a click on a button of a page calls.**  Its action stands in the markup as it
    is; it is a call exactly if it has brackets and its word can be called.  The class
    has a line for its method; this declares a method of the name that is called exactly
    if nothing stands between the brackets, and the name is not that of the
    constructor. -/
theorem click_of_button (p : Page) (theme : String) {a : Attributes}
    (ha : a ∈ shownAll p.components) (hbutton : a.kind = .button) {name : String}
    {arguments : Option String} (haction : a.action = some (callText name arguments))
    (hname : IsName name) (harguments : ∀ s ∈ arguments, IsClosed s ∧ '"' ∉ s.toList) :
    ∃ h ∈ handlers p.components,
      h.nodeId = a.id ∧
      h.method = (if arguments.getD "" = "" then name else callText name arguments) ∧
      ("\n  " ++ h.line ++ "\n").toList <:+: (p.sources theme).script.toList ∧
      ("<button class=\"" ++ a.classes [] ++ "\" (click)=\"" ++ callText name arguments ++ "\">" ++
        Html.escape (a.text.getD "") ++ "</button>").toList <:+:
          (p.sources theme).template.toList ∧
      '"' ∉ (callText name arguments).toList ∧
      ((∀ b ∈ shownAll p.components, ∀ s ∈ b.verbatim, '"' ∉ s.toList) →
        ∃ ns, Markup.read (p.sources theme).template = some ns ∧
          callText name arguments ∈ valuesAll "(click)" ns) ∧
      readCall (callText name arguments) =
        (if name ∈ expressionWords then none else arguments.map (name, ·)) ∧
      readMethod h.line =
        if arguments.getD "" = "" ∧ name ≠ "constructor" then some ⟨name, "", clicked a.id⟩
        else none := by
  have haction? := action?_callText hname haction
  have hclosed : ∀ s ∈ arguments, IsClosed s := fun s hs => (harguments s hs).1
  have hmem : ⟨methodName (callText name arguments), a.id⟩ ∈ handlers p.components :=
    List.mem_filterMap.2
      ⟨a, (shownAll_sublist p.components).subset ha, by rw [Attributes.handler?, haction?]; rfl⟩
  refine ⟨_, hmem, rfl, methodName_callText hname hclosed, infix_script_of_handler hmem theme, ?_,
    quote_not_mem_callText hname fun s hs => (harguments s hs).2, ?_,
    readCall_callText hname hclosed, readMethod_callText hname hclosed a.id⟩
  · obtain ⟨c, hc, e, bs, hencloses⟩ := encloses_of_mem_shown ha
    rw [← render_button hbutton haction? e bs]
    exact hencloses.infix_render.trans (infix_renderPage hc)
  · intro hquotes
    refine ⟨forests p.components, (fills_renderPage hquotes).read, ?_⟩
    rw [clicks_forests]
    refine List.mem_flatMap.2 ⟨a, ha, ?_⟩
    rw [Attributes.clicks, hbutton, haction?]
    exact List.mem_singleton_self _

/-- A page with a button in a section. -/
def savePage : Page where
  name := "p"
  components :=
    [.node { kind := .section_, id := "s" }
      [.node { kind := .button, id := "b", action := some "save()" } []]]

/-- A click on the button calls the method that the class declares for it. -/
theorem click_of_button_savePage : ∃ h ∈ handlers savePage.components,
    h.method = "save" ∧ readCall "save()" = some ("save", "") ∧
      readMethod h.line = some ⟨"save", "", "b clicked"⟩ ∧
      ∃ ns, Markup.read (savePage.sources "theme").template = some ns ∧
        "save()" ∈ valuesAll "(click)" ns := by
  have ha : { kind := .button, id := "b", action := some "save()" } ∈
      shownAll savePage.components := by decide
  have hquotes : ∀ b ∈ shownAll savePage.components, ∀ s ∈ b.verbatim, '"' ∉ s.toList := by decide
  have haction : some "save()" = some (callText "save" (some "")) := rfl
  have harguments : ∀ s ∈ some "", IsClosed s ∧ '"' ∉ s.toList := by decide
  obtain ⟨h, hmem, -, hmethod, -, -, -, hread, hcall, hdeclared⟩ :=
    click_of_button savePage "theme" ha rfl haction (by decide) harguments
  exact ⟨h, hmem, hmethod, hcall, hdeclared, hread hquotes⟩

/-- A page with a button that passes a text, one that only names its method, one that
    names the constructor, and one that names a word of the expressions. -/
def draftPage : Page where
  name := "p"
  components :=
    [.node { kind := .button, id := "b", action := some "save('draft')" } [],
      .node { kind := .button, id := "c", action := some "save" } [],
      .node { kind := .button, id := "d", action := some "constructor()" } [],
      .node { kind := .button, id := "e", action := some "as()" } []]

/-- **A page is accepted although its buttons do not call what the class declares**:
    the method of the first is no name, the expressions of the second and the fourth
    are no calls, and the third has no method but the constructor. -/
theorem click_of_button_draftPage :
    validate [draftPage] = [] ∧
      (handlers draftPage.components).map (·.line) =
        ["save('draft')() \x7b console.log('b clicked'); \x7d",
          "save() \x7b console.log('c clicked'); \x7d",
          "constructor() \x7b console.log('d clicked'); \x7d",
          "as() \x7b console.log('e clicked'); \x7d"] ∧
      readCall "save('draft')" = some ("save", "'draft'") ∧
      readMethod "save('draft')() \x7b console.log('b clicked'); \x7d" = none ∧
      readCall "save" = none ∧
      readMethod "constructor() \x7b console.log('d clicked'); \x7d" = none ∧
      readCall "as()" = none := by
  decide +kernel

end Page

end Pagewright
