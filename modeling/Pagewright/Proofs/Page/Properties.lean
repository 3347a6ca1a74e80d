/-
  The properties of a page class, and their names.

  * `Kind.isControl` tells the kinds with a property;
  * `infix_script`: a member takes a line of its own in the class;
  * `isIdentifier_append_iff`: what is made of an id and the ending of a property is
    an identifier exactly if the id does not begin with a digit;
  * `stateField_of_control` puts this together, and `stateField_of_control_digit` is
    a page whose property has a name that names nothing.
-/
import Pagewright.Page.Sources
import Pagewright.Proofs.Markup.Bindings
import Pagewright.Proofs.Page.Outputs

namespace Pagewright

open Text

/-! ## Lines of a class -/

/-- A line behind others stands between two line breaks. -/
theorem infix_lines {ls ms : List String} {m : String} (hls : ls ≠ []) (hm : m ∈ ms) :
    ("\n" ++ m ++ "\n").toList <:+: (String.join ((ls ++ ms).map (· ++ "\n"))).toList := by
  obtain ⟨before, after, rfl⟩ := List.append_of_mem hm
  -- the break in front of the line ends the one above it
  obtain ⟨init, last, hlast⟩ : ∃ init last, ls ++ before = init ++ [last] :=
    (List.eq_nil_or_concat' (ls ++ before)).resolve_left (by simp [hls])
  rw [← List.append_assoc, hlast]
  refine ⟨(String.join (init.map (· ++ "\n")) ++ last).toList,
    (String.join (after.map (· ++ "\n"))).toList, ?_⟩
  simp [String.toList_join]

namespace Page

/-- The members of the class of a page stand on lines of their own, each indented. -/
theorem infix_script {p : Page} {line : String}
    (h : "  " ++ line ∈ classMembers (Component.stateFields p.components)
      (Component.handlers p.components)) (theme : String) :
    ("\n  " ++ line ++ "\n").toList <:+: (p.sources theme).script.toList := by
  have hline : "\n  " ++ line ++ "\n" = "\n" ++ ("  " ++ line) ++ "\n" := by
    simp [← String.toList_inj]
  simp only [sources]
  rw [hline, renderClass, List.append_assoc]
  exact infix_lines (List.cons_ne_nil _ _) (List.mem_append_left _ h)

/-- The properties of a page have such a line. -/
theorem infix_script_of_field {p : Page} {f : StateField}
    (h : f ∈ Component.stateFields p.components) (theme : String) :
    ("\n  " ++ f.line ++ "\n").toList <:+: (p.sources theme).script.toList :=
  infix_script (List.mem_append_left _ (List.mem_append_left _ (List.mem_map_of_mem h))) theme

/-- So have the methods. -/
theorem infix_script_of_handler {p : Page} {h : Handler}
    (hmem : h ∈ Component.handlers p.components) (theme : String) :
    ("\n  " ++ h.line ++ "\n").toList <:+: (p.sources theme).script.toList :=
  infix_script (List.mem_append_right _ (List.mem_map_of_mem hmem)) theme

end Page

/-! ## Form controls -/

/-- Whether a component of a kind is a form control. -/
def Kind.isControl : Kind → Bool
  | .input | .textarea | .select | .radioGroup | .checkbox => true
  | _ => false

namespace Attributes

variable {a : Attributes} {f : StateField}

/-- The form controls are the components with a property. -/
theorem isSome_stateField? (a : Attributes) : a.stateField?.isSome = a.kind.isControl := by
  unfold stateField? Kind.isControl
  cases a.kind <;> rfl

/-- What the name of a property ends in. -/
def nameEndings : List String := ["Model", "Selected", "Checked"]

theorem name_stateField? (h : a.stateField? = some f) :
    ∃ ending ∈ nameEndings, f.name = Script.identifier a.id ++ ending := by
  unfold stateField? at h
  cases hk : a.kind <;> simp only [hk, reduceCtorEq, Option.some.injEq] at h <;> subst h
  case input | textarea => exact ⟨"Model", by decide, rfl⟩
  case select | radioGroup => exact ⟨"Selected", by decide, rfl⟩
  case checkbox => exact ⟨"Checked", by decide, rfl⟩

/-- A component is bound to its own property only. -/
theorem eq_name_of_mem_targets (h : a.stateField? = some f) {t : String} (ht : t ∈ a.targets) :
    t = f.name := by
  unfold stateField? at h
  unfold targets at ht
  cases hk : a.kind <;> simp only [hk, reduceCtorEq, Option.some.injEq] at h ht <;> subst h
  case radioGroup =>
    obtain ⟨o, -, rfl⟩ := List.mem_map.1 ht
    rfl
  all_goals exact List.mem_singleton.1 ht

end Attributes

/-! ## Names -/

namespace Script

theorem head?_identifier (s : String) : (identifier s).toList.head? =
    s.toList.head?.map fun c => if isIdentifierChar c then c else '_' := by
  rw [identifier, String.toList_ofList, List.head?_map]

/-- What stands for a character is a digit exactly if the character is. -/
theorem isDigit_ite (c : Char) : (if isIdentifierChar c then c else '_').isDigit = c.isDigit := by
  split_ifs with h
  · rfl
  · have hdigit : c.isDigit = false := by
      by_contra hc
      simp [isIdentifierChar, Char.isAlphanum, hc] at h
    rw [hdigit]
    rfl

/-- No reserved word ends like the name of a property. -/
theorem not_mem_reservedWords {s ending : String} (h : ending ∈ Attributes.nameEndings) :
    s ++ ending ∉ reservedWords := by
  have hwords : ∀ w ∈ reservedWords, ∀ e ∈ Attributes.nameEndings, ¬e.toList <:+ w.toList := by
    decide +kernel
  intro hs
  refine hwords _ hs ending h ?_
  rw [String.toList_append]
  exact List.suffix_append _ _

/-- What is made of a text and the ending of a property is an identifier exactly if
    the text does not begin with a digit. -/
theorem isIdentifier_append_iff {s ending : String} (h : ending ∈ Attributes.nameEndings) :
    IsIdentifier (identifier s ++ ending) ↔ ∀ c ∈ s.toList.head?, c.isDigit = false := by
  have hendings : ∀ e ∈ Attributes.nameEndings, e.toList.all isIdentifierChar := by decide
  have hstarts : ∀ e ∈ Attributes.nameEndings, ∃ c ∈ e.toList.head?, c.isDigit = false := by
    simp [Attributes.nameEndings]
  have hhead : (∃ c ∈ (identifier s ++ ending).toList.head?, c.isDigit = false) ↔
      ∀ c ∈ s.toList.head?, c.isDigit = false := by
    rw [String.toList_append, List.head?_append, head?_identifier]
    cases s.toList.head? with
    | none => simpa using hstarts ending h
    | some c => simp [isDigit_ite]
  rw [← hhead]
  exact ⟨fun hid => hid.start, fun hs =>
    ⟨fun c hc => Attributes.isIdentifierChar_of_mem_append (hendings ending h) hc, hs,
      not_mem_reservedWords h⟩⟩

end Script

/-! ## Properties of a page -/

namespace Page

open Component Markup.Node

/-- **Every form control has its property, and its name is an identifier exactly if
    the id of the control does not begin with a digit.**  The property stands on a
    line of the class, and what the control is bound to in the markup is its name.
    This is never empty, and made of letters, digits and underscores. -/
theorem stateField_of_control (p : Page) (theme : String) {a : Attributes} (ha : a ∈ p.nodes)
    (hcontrol : a.kind.isControl) :
    ∃ f, a.stateField? = some f ∧ f ∈ stateFields p.components ∧
      ("\n  " ++ f.line ++ "\n").toList <:+: (p.sources theme).script.toList ∧
      (∀ t ∈ a.targets, t = f.name) ∧
      ((∀ b ∈ shownAll p.components, ∀ s ∈ b.verbatim, '"' ∉ s.toList) →
        ∃ ns, Markup.read (p.sources theme).template = some ns ∧
          valuesAll "[(ngModel)]" ns = (shownAll p.components).flatMap Attributes.targets) ∧
      f.name ≠ "" ∧ (∀ c ∈ f.name.toList, Script.isIdentifierChar c) ∧
      (Script.IsIdentifier f.name ↔ ∀ c ∈ a.id.toList.head?, c.isDigit = false) := by
  obtain ⟨f, hf⟩ := Option.isSome_iff_exists.1 (a.isSome_stateField?.trans hcontrol)
  obtain ⟨ending, hending, hname⟩ := Attributes.name_stateField? hf
  have hfield : f ∈ stateFields p.components := List.mem_filterMap.2 ⟨a, ha, hf⟩
  have hendings : ∀ e ∈ Attributes.nameEndings, e ≠ "" ∧ e.toList.all Script.isIdentifierChar := by
    decide
  obtain ⟨hne, hchars⟩ := hendings ending hending
  refine ⟨f, hf, hfield, infix_script_of_field hfield theme,
    fun t => Attributes.eq_name_of_mem_targets hf, fun hquotes => ?_, ?_, ?_, ?_⟩
  · exact ⟨_, (fills_renderPage hquotes).read, targets_forests _⟩
  · rw [hname]
    simp [hne]
  · rw [hname]
    exact fun c hc => Attributes.isIdentifierChar_of_mem_append hchars hc
  · rw [hname]
    exact Script.isIdentifier_append_iff hending

/-- A page with a choice whose id is no identifier. -/
def choicePage : Page where
  name := "p"
  components := [.node { kind := .card, id := "k" } [ofKind .select "für-1"]]

/-- Its property is named by an identifier, and it is bound to it. -/
theorem stateField_of_control_choicePage : ∃ f,
    f ∈ stateFields choicePage.components ∧ f.name = "f_r_1Selected" ∧
      Script.IsIdentifier f.name ∧
      ∃ ns, Markup.read (choicePage.sources "theme").template = some ns ∧
        valuesAll "[(ngModel)]" ns = [f.name] := by
  have ha : { kind := .select, id := "für-1" } ∈ choicePage.nodes :=
    List.mem_cons_of_mem _ (List.mem_singleton_self _)
  have hquotes : ∀ b ∈ shownAll choicePage.components, ∀ s ∈ b.verbatim, '"' ∉ s.toList := by
    decide
  obtain ⟨f, hf, hfield, -, -, hread, -, -, hname⟩ :=
    stateField_of_control choicePage "theme" ha rfl
  obtain rfl := Option.some.inj hf
  refine ⟨_, hfield, by decide +kernel, hname.2 fun c hc => ?_, hread hquotes⟩
  obtain rfl := Option.some.inj hc
  rfl

/-- A page with an input whose id begins with a digit. -/
def digitPage : Page where
  name := "p"
  components := [ofKind .input "1st"]

/-- **A page is accepted although a property has no identifier for a name.** -/
theorem stateField_of_control_digit :
    validate [digitPage] = [] ∧
      stateFields digitPage.components = [⟨"1stModel", .text ""⟩] ∧
      ("\n  1stModel: string = '';\n").toList <:+: (digitPage.sources "theme").script.toList ∧
      ¬Script.IsIdentifier "1stModel" := by
  have hfields : stateFields digitPage.components = [⟨"1stModel", .text ""⟩] := by decide +kernel
  have hline : "\n  " ++ StateField.line ⟨"1stModel", .text ""⟩ ++ "\n" =
      "\n  1stModel: string = '';\n" := by decide +kernel
  have hfield : ⟨"1stModel", .text ""⟩ ∈ stateFields digitPage.components := by simp [hfields]
  refine ⟨by decide +kernel, hfields, hline ▸ infix_script_of_field hfield "theme", fun h => ?_⟩
  obtain ⟨c, hc, hdigit⟩ := h.start
  obtain rfl := Option.some.inj hc
  exact absurd hdigit (by decide)

end Page

end Pagewright
