/-
  What the markup of a page is bound to, and the members of its class.

  * `Node.values` lists the values of the attributes of a name, in the order in
    which they stand in a document;
  * `Attributes.targets` are the class members that a component is bound to,
    `Attributes.clicks` the actions that a click on it calls;
  * `collect_forests`, `values_forests`: the bindings of a forest are those of the
    components that it shows, in order;
  * the components that are shown are among those that the members are collected
    from, in the same order (`shownAll_sublist`), and each is bound to a member
    of its own (`bound_sublist`, `called_sublist`);
  * `renderPage_bindings`: every binding in the markup of a page has its member,
    of the type that the control takes.
-/
import Mathlib.Data.List.Basic
import Mathlib.Data.List.Flatten
import Pagewright.Interaction
import Pagewright.Proofs.Markup.RoundTrip

namespace Pagewright

open Text Template Markup

/-! ## Values of attributes -/

namespace Markup

/-- The value of an attribute, if it has the name. -/
def Attr.valueOf? (name : String) (a : Attr) : Option String :=
  if a.name = name then a.value else none

@[simp] theorem valueOf?_attr (name n v : String) :
    Attr.valueOf? name (attr n v) = if n = name then some v else none := rfl

@[simp] theorem valueOf?_bare (name n : String) : Attr.valueOf? name ⟨n, none⟩ = none :=
  ite_self none

namespace Node

mutual

/-- The values of the attributes of a name, in a node and inside of it. -/
def values (name : String) : Node → List String
  | element _ attrs ns => attrs.filterMap (Attr.valueOf? name) ++ valuesAll name ns
  | text _ => []
  | comment _ => []

/-- The values of the attributes of a name, in one node after the other. -/
def valuesAll (name : String) : List Node → List String
  | [] => []
  | n :: ns => values name n ++ valuesAll name ns

end

variable (name : String)

@[simp] theorem valuesAll_nil : valuesAll name [] = [] := rfl

@[simp] theorem valuesAll_cons (n : Node) (ns : List Node) :
    valuesAll name (n :: ns) = values name n ++ valuesAll name ns := rfl

@[simp] theorem values_element (tag : String) (attrs : List Attr) (ns : List Node) :
    values name (element tag attrs ns) =
      attrs.filterMap (Attr.valueOf? name) ++ valuesAll name ns := rfl

@[simp] theorem values_text (s : String) : values name (text s) = [] := rfl

@[simp] theorem values_comment (s : String) : values name (comment s) = [] := rfl

theorem valuesAll_eq_flatMap (ns : List Node) : valuesAll name ns = ns.flatMap (values name) := by
  induction ns with
  | nil => rfl
  | cons n ns ih => simp [valuesAll, ih]

theorem valuesAll_append (ns ms : List Node) :
    valuesAll name (ns ++ ms) = valuesAll name ns ++ valuesAll name ms := by
  simp only [valuesAll_eq_flatMap, List.flatMap_append]

theorem valuesAll_map {α : Type} (f : α → Node) (xs : List α) :
    valuesAll name (xs.map f) = xs.flatMap fun x => values name (f x) := by
  rw [valuesAll_eq_flatMap, List.flatMap_map]

/-- A text stands in no attribute. -/
@[simp] theorem values_textElement (tag : String) (attrs : List Attr) (s : String) :
    values name (textElement tag attrs s) = attrs.filterMap (Attr.valueOf? name) := by
  unfold textElement textNodes
  split_ifs <;> simp

@[simp] theorem values_row (tag : String) (cells : List String) :
    values name (row tag cells) = [] := by
  simp [row, valuesAll_map]

end Node

end Markup

open Node

/-! ## Bindings of a component -/

namespace Attributes

variable (a : Attributes)

/-- The class members that the elements of a component are bound to, in order. -/
def targets : List String :=
  match a.kind with
  | .input | .textarea => [a.modelName]
  | .select => [a.selectedName]
  | .radioGroup => a.options.map fun _ => a.selectedName
  | .checkbox => [a.checkedName]
  | _ => []

/-- What a click on a component calls. -/
def clicks : List String :=
  match a.kind with
  | .button => a.action?.toList
  | _ => []

/-- The expressions that the options of a component are the values of. -/
def values : List String :=
  match a.kind with
  | .select | .radioGroup => a.options.map fun o => "'" ++ o ++ "'"
  | _ => []

/-- The member that a component is bound to, with the type that it takes.  A group
    of radio buttons is bound to its member once for each button, and has it once. -/
def bound : List (String × String) :=
  a.targets.eraseDups.map fun t => (t, if a.kind = .checkbox then "boolean" else "string")

/-- The methods that a click on a component calls, with its id. -/
def called : List Handler := a.clicks.map fun action => ⟨methodName action, a.id⟩

variable {a}

/-- A component around others has no bindings of its own. -/
theorem bindings_of_around {tag classes : String} (h : a.outline = .around tag classes) :
    a.targets = [] ∧ a.clicks = [] ∧ a.values = [] := by
  unfold outline at h
  unfold targets clicks values
  cases hk : a.kind <;> simp_all

/-- What is read of any other has its bindings. -/
theorem bindings_of_nodes {ns : List Node} (h : a.outline = .nodes ns) :
    valuesAll "[(ngModel)]" ns = a.targets ∧ valuesAll "(click)" ns = a.clicks ∧
      valuesAll "[value]" ns = a.values := by
  unfold outline at h
  unfold targets clicks values
  cases hk : a.kind <;> simp only [hk, reduceCtorEq, Outline.nodes.injEq] at h ⊢ <;> subst h
  case button => cases a.action? <;> simp
  case icon => cases a.iconClass.filter (· ≠ "") <;> simp [idClass]
  case video => cases a.controls <;> cases a.autoplay <;> simp [idClass]
  case table => simp [tableNode, valuesAll_map, idClass]
  case select => simp [valuesAll_map, idClass, ← List.map_eq_flatMap]
  case radioGroup => simp [valuesAll_map, radioNode, idClass, ← List.map_eq_flatMap]
  all_goals simp [valuesAll_map, idClass]

end Attributes

/-! ## Bindings of a page -/

namespace Component

/-- What is collected from the nodes of a forest is what is collected from the
    components that it shows. -/
theorem collect_forests {β : Type} {g : List Node → List β} {f : Attributes → List β}
    (hnil : g [] = []) (happend : ∀ ns ms, g (ns ++ ms) = g ns ++ g ms)
    (haround : ∀ {a : Attributes} {tag classes}, a.outline = .around tag classes →
      ∀ ns, g [.element tag [attr "class" classes] ns] = f a ++ g ns)
    (hnodes : ∀ {a : Attributes} {ns}, a.outline = .nodes ns → g ns = f a)
    (cs : List Component) : g (forests cs) = (shownAll cs).flatMap f := by
  have hlist {cs : List Component} (h : ∀ c ∈ cs, g c.forest = c.shown.flatMap f) :
      g (forests cs) = (shownAll cs).flatMap f := by
    induction cs with
    | nil => exact hnil
    | cons c cs ih =>
      obtain ⟨hc, hcs⟩ := List.forall_mem_cons.1 h
      rw [forests, shownAll, happend, List.flatMap_append, hc, ih hcs]
  have htree (c : Component) : g c.forest = c.shown.flatMap f := by
    induction c with
    | node a cs ih =>
      rw [forest, shown]
      cases ho : a.outline with
      | around tag classes =>
        simp only
        rw [haround ho, List.flatMap_cons, hlist ih]
      | nodes ns => simp [hnodes ho]
  exact hlist fun c _ => htree c

/-- The attributes of a name in a forest are those of the components that it
    shows: a block has its style classes only. -/
theorem values_forests {name : String} {f : Attributes → List String} (hname : name ≠ "class")
    (haround : ∀ {a : Attributes} {tag classes}, a.outline = .around tag classes → f a = [])
    (hnodes : ∀ {a : Attributes} {ns}, a.outline = .nodes ns → valuesAll name ns = f a)
    (cs : List Component) : valuesAll name (forests cs) = (shownAll cs).flatMap f := by
  refine collect_forests (valuesAll_nil name) (valuesAll_append name) ?_ hnodes cs
  intro a tag classes ho ns
  have hclass : Attr.valueOf? name (attr "class" classes) = none := if_neg hname.symm
  simp [hclass, haround ho]

theorem targets_forests (cs : List Component) :
    valuesAll "[(ngModel)]" (forests cs) = (shownAll cs).flatMap Attributes.targets :=
  values_forests (by decide) (fun ho => (Attributes.bindings_of_around ho).1)
    (fun ho => (Attributes.bindings_of_nodes ho).1) cs

theorem clicks_forests (cs : List Component) :
    valuesAll "(click)" (forests cs) = (shownAll cs).flatMap Attributes.clicks :=
  values_forests (by decide) (fun ho => (Attributes.bindings_of_around ho).2.1)
    (fun ho => (Attributes.bindings_of_nodes ho).2.1) cs

/-- The components that are shown are among all components, in the same order. -/
theorem shownAll_sublist (cs : List Component) : (shownAll cs).Sublist (preorderAll cs) := by
  have hlist {cs : List Component} (h : ∀ c ∈ cs, c.shown.Sublist c.preorder) :
      (shownAll cs).Sublist (preorderAll cs) := by
    rw [shownAll_eq_flatMap, preorderAll_eq_flatMap]
    exact List.Sublist.flatMap_right cs h
  have htree (c : Component) : c.shown.Sublist c.preorder := by
    induction c with
    | node a cs ih =>
      rw [shown, preorder]
      cases a.outline with
      | around tag classes => exact (hlist ih).cons_cons a
      | nodes ns => exact (List.nil_sublist _).cons_cons a
  exact hlist fun c _ => htree c

/-- What holds in turn of single components holds of all that are shown and all
    that members are collected from. -/
theorem flatMap_sublist_filterMap {β : Type} {f : Attributes → List β} {g : Attributes → Option β}
    (h : ∀ a, (f a).Sublist (g a).toList) (cs : List Component) :
    ((shownAll cs).flatMap f).Sublist ((preorderAll cs).filterMap g) := by
  rw [List.filterMap_eq_flatMap_toList]
  have hown : ((shownAll cs).flatMap f).Sublist ((shownAll cs).flatMap fun a => (g a).toList) :=
    List.Sublist.flatMap_right _ fun a _ => h a
  exact hown.trans ((shownAll_sublist cs).flatMap _)

end Component

namespace Attributes

variable (a : Attributes)

/-- The member that a component is bound to is its own. -/
theorem bound_sublist :
    a.bound.Sublist (a.stateField?.map fun f => (f.name, f.initial.typeName)).toList := by
  have hone (t : String) : [t].eraseDups = [t] := by simp [List.eraseDups_cons]
  unfold bound targets stateField?
  cases hk : a.kind
  case radioGroup =>
    cases a.options with
    | nil => simp
    | cons o os =>
      -- what comes behind the first is the same
      simp [List.eraseDups_cons, Initial.typeName]
  all_goals simp [hone, Initial.typeName]

/-- The method that a click on a component calls is its own. -/
theorem called_sublist : a.called.Sublist a.handler?.toList := by
  unfold called clicks handler?
  cases a.kind
  case button => cases a.action? <;> simp
  all_goals simp

/-- A member is named for the type that it is declared with. -/
theorem typeName_iff {a : Attributes} {f : StateField} (h : a.stateField? = some f) :
    (f.initial.typeName = "string" ↔
        "Model".toList <:+ f.name.toList ∨ "Selected".toList <:+ f.name.toList) ∧
      (f.initial.typeName = "boolean" ↔ "Checked".toList <:+ f.name.toList) := by
  -- the three endings are no endings of each other, so a name has one of them only
  have hmodel : "Model".toList <:+ a.modelName.toList := by simp [modelName]
  have hselected : "Selected".toList <:+ a.selectedName.toList := by simp [selectedName]
  have hchecked : "Checked".toList <:+ a.checkedName.toList := by simp [checkedName]
  have hapart {u v w : List Char} (huv : ¬(u <:+ v ∨ v <:+ u)) (hv : v <:+ w) : ¬u <:+ w :=
    fun hu => huv (List.suffix_or_suffix_of_suffix hu hv)
  unfold stateField? at h
  cases hk : a.kind <;> simp only [hk, reduceCtorEq, Option.some.injEq] at h <;> subst h
  case input | textarea =>
    have hno : ¬"Checked".toList <:+ a.modelName.toList := hapart (by decide) hmodel
    exact ⟨iff_of_true rfl (Or.inl hmodel), iff_of_false (by simp [Initial.typeName]) hno⟩
  case select | radioGroup =>
    have hno : ¬"Checked".toList <:+ a.selectedName.toList := hapart (by decide) hselected
    exact ⟨iff_of_true rfl (Or.inr hselected), iff_of_false (by simp [Initial.typeName]) hno⟩
  case checkbox =>
    have hno : ¬"Model".toList <:+ a.checkedName.toList := hapart (by decide) hchecked
    have hno' : ¬"Selected".toList <:+ a.checkedName.toList := hapart (by decide) hchecked
    exact ⟨iff_of_false (by simp [Initial.typeName]) (not_or.2 ⟨hno, hno'⟩),
      iff_of_true rfl hchecked⟩

end Attributes

namespace Component

/-- **Every binding in the markup of a page has its member.** -/
theorem renderPage_bindings (cs : List Component)
    (h : ∀ a ∈ shownAll cs, ∀ s ∈ a.verbatim, '"' ∉ s.toList) :
    ∃ ns, read (renderPage cs) = some ns ∧
      valuesAll "[(ngModel)]" ns = (shownAll cs).flatMap Attributes.targets ∧
      ((shownAll cs).flatMap Attributes.bound).Sublist
        ((stateFields cs).map fun f => (f.name, f.initial.typeName)) ∧
      (∀ f ∈ stateFields cs,
        (f.initial.typeName = "string" ↔
          "Model".toList <:+ f.name.toList ∨ "Selected".toList <:+ f.name.toList) ∧
        (f.initial.typeName = "boolean" ↔ "Checked".toList <:+ f.name.toList)) ∧
      valuesAll "(click)" ns = (shownAll cs).flatMap Attributes.clicks ∧
      ((shownAll cs).flatMap Attributes.called).Sublist (handlers cs) := by
  refine ⟨forests cs, (fills_renderPage h).read, targets_forests cs, ?_, ?_, clicks_forests cs, ?_⟩
  · rw [stateFields, List.map_filterMap]
    exact flatMap_sublist_filterMap Attributes.bound_sublist cs
  · intro f hf
    obtain ⟨a, -, ha⟩ := List.mem_filterMap.1 hf
    exact Attributes.typeName_iff ha
  · exact flatMap_sublist_filterMap Attributes.called_sublist cs

/-- A form with a hidden box to tick and an action that nothing clicks. -/
def boundForm : List Component :=
  [.node { kind := .formGroup, id := "f" }
    [.node { kind := .input, id := "user-name" } [],
      .node { kind := .radioGroup, id := "r", options := ["a", "\""] } [],
      .node { kind := .radioGroup, id := "none" } [],
      .node { kind := .text, id := "t", action := some "hide()" }
        [.node { kind := .checkbox, id := "c" } []],
      .node { kind := .button, id := "b", action := some "save()" } []]]

/-- The form has more members than bindings. -/
theorem renderPage_bindings_boundForm :
    (∀ a ∈ shownAll boundForm, ∀ s ∈ a.verbatim, '"' ∉ s.toList) ∧
    ∃ ns, read (renderPage boundForm) = some ns ∧
      valuesAll "[(ngModel)]" ns = ["user_nameModel", "rSelected", "rSelected"] ∧
      [("user_nameModel", "string"), ("rSelected", "string")].Sublist
        [("user_nameModel", "string"), ("rSelected", "string"), ("noneSelected", "string"),
          ("cChecked", "boolean")] ∧
      (∀ f ∈ stateFields boundForm,
        (f.initial.typeName = "string" ↔
          "Model".toList <:+ f.name.toList ∨ "Selected".toList <:+ f.name.toList) ∧
        (f.initial.typeName = "boolean" ↔ "Checked".toList <:+ f.name.toList)) ∧
      valuesAll "(click)" ns = ["save()"] ∧
      [Handler.mk "save" "b"].Sublist [⟨"hide", "t"⟩, ⟨"save", "b"⟩] := by
  have h : ∀ a ∈ shownAll boundForm, ∀ s ∈ a.verbatim, '"' ∉ s.toList := by decide
  exact ⟨h, renderPage_bindings boundForm h⟩

end Component

end Pagewright
