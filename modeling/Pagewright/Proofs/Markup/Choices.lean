/-
  The options of a choice, in the markup of a page and in its class.

  An option is written twice: as the value of an attribute, where it is a text
  between apostrophes (`optionText`), and, if it is the first, as the literal that
  the member of the choice starts with.

  * `holds_valueText`: the markup of a choice has a value for every option, in
    order, and a reader finds these values and no others (`values_choice`);
  * `choice_values_iff`: the value of an option is an expression for the option
    exactly if the option holds neither an apostrophe nor a backslash, and it is
    what the member starts with exactly if it holds no carriage return either;
  * `apostrophe_ends_value` is an option that is cut off.
-/
import Pagewright.Proofs.Markup.Bindings
import Pagewright.Proofs.Text.Literals

namespace Pagewright

open Template Segment Markup

/-! ## Pieces of a text -/

/-- The pieces stand in a text, one behind the other. -/
inductive Holds : String → List String → Prop where
  | nil (s : String) : Holds s []
  | cons (before piece : String) {rest : String} {pieces : List String} :
      Holds rest pieces → Holds (before ++ piece ++ rest) (piece :: pieces)

section
variable {s t : String} {ps qs : List String}

theorem holds_between (before piece behind : String) :
    Holds (before ++ piece ++ behind) [piece] := .cons before piece (.nil behind)

theorem Holds.behind (h : Holds t ps) (s : String) : Holds (s ++ t) ps := by
  cases h with
  | nil => exact .nil _
  | cons before piece h =>
    rw [← String.append_assoc, ← String.append_assoc]
    exact .cons (s ++ before) piece h

theorem Holds.append (h : Holds s ps) (h' : Holds t qs) : Holds (s ++ t) (ps ++ qs) := by
  induction h with
  | nil s => exact h'.behind s
  | cons before piece _ ih =>
    rw [String.append_assoc]
    exact .cons before piece ih

theorem Holds.before (h : Holds s ps) (t : String) : Holds (s ++ t) ps := by
  simpa using h.append (.nil t)

end

section
variable {α : Type} {f : α → Template} {g : α → String}

theorem holds_flatMap (h : ∀ x, Holds (f x).render [g x]) (xs : List α) :
    Holds (render (xs.flatMap f)) (xs.map g) := by
  induction xs with
  | nil => exact .nil _
  | cons x xs ih =>
    rw [List.flatMap_cons, render_append]
    exact (h x).append ih

theorem holds_joined (h : ∀ x, Holds (f x).render [g x]) (separator : Template) :
    ∀ xs : List α, Holds (render (joined separator (xs.map f))) (xs.map g)
  | [] => .nil _
  | [x] => h x
  | x :: y :: xs => by
    have hrest := holds_joined h separator (y :: xs)
    simp only [List.map_cons, joined, render_append] at hrest ⊢
    exact ((h x).before separator.render).append hrest

end

/-! ## Values of options -/

namespace Attributes

/-- The value of an option, as it is written. -/
def optionText (o : String) : String := "'" ++ Html.escape o ++ "'"

/-- The attribute that an option is written in. -/
def valueText (o : String) : String := "[value]=\"" ++ optionText o ++ "\""

/-- The value of an option is the option between apostrophes. -/
theorem decode_optionText (o : String) : Html.decode (optionText o) = "'" ++ o ++ "'" :=
  Html.decode_quoted o

/-- The attribute ends with the value. -/
theorem quote_not_mem_optionText (o : String) : '"' ∉ (optionText o).toList := by
  simpa [optionText] using not_mem_escape o

variable {a : Attributes}

theorem shape_select (hk : a.kind = .select) (d : Nat) : a.shape d = .leaf a.selectTemplate := by
  rw [shape, hk]

theorem shape_radioGroup (hk : a.kind = .radioGroup) (d : Nat) :
    a.shape d = .leaf (a.radioGroupTemplate d) := by
  rw [shape, hk]

theorem holds_radioTemplate (o : String) : Holds (a.radioTemplate o).render [valueText o] := by
  have hrender : (a.radioTemplate o).render =
      ("<label class=\"" ++ a.id ++ "\"><input type=\"radio\" name=\"" ++ a.id ++
        "\" [(ngModel)]=\"" ++ a.selectedName ++ "\" ") ++ valueText o ++
        (" /> " ++ Html.escape o ++ "</label>") := by
    apply String.toList_inj.1
    simp [radioTemplate, valueText, optionText]
  rw [hrender]
  exact holds_between _ _ _

/-- The markup of a choice has a value for every option, in order. -/
theorem holds_valueText (h : a.kind = .select ∨ a.kind = .radioGroup) (d : Nat)
    (cs : List Component) :
    Holds (Component.render d (.node a cs)) (a.options.map valueText) := by
  rw [Component.render, Component.template]
  rcases h with hk | hk
  · have hoption (o : String) : Holds (render [markup "<option [value]=\"'", .text o,
        markup "'\">", .text o, markup "</option>"]) [valueText o] := by
      have hrender : render [markup "<option [value]=\"'", .text o, markup "'\">", .text o,
          markup "</option>"] =
          "<option " ++ valueText o ++ (">" ++ Html.escape o ++ "</option>") := by
        apply String.toList_inj.1
        simp [valueText, optionText]
      rw [hrender]
      exact holds_between _ _ _
    simp only [shape_select hk, selectTemplate, render_append]
    exact ((holds_flatMap hoption a.options).behind _).before _
  · simp only [shape_radioGroup hk, radioGroupTemplate]
    exact holds_joined holds_radioTemplate _ a.options

/-- A choice is shown alone. -/
theorem shownAll_choice (h : a.kind = .select ∨ a.kind = .radioGroup) (cs : List Component) :
    Component.shownAll [.node a cs] = [a] := by
  rw [Component.shownAll_eq_flatMap, List.flatMap_singleton]
  rcases h with hk | hk
  · exact Component.shown_of_leaf (shape_select hk 0) cs
  · exact Component.shown_of_leaf (shape_radioGroup hk 0) cs

/-- A reader finds the values of the options in the attributes, and no others. -/
theorem values_choice (h : a.kind = .select ∨ a.kind = .radioGroup) (cs : List Component) :
    Node.valuesAll "[value]" (Component.forests [.node a cs]) =
      a.options.map fun o => Html.decode (optionText o) := by
  have hvalues := Component.values_forests (f := values) (by decide)
    (fun ho => (bindings_of_around ho).2.2) (fun ho => (bindings_of_nodes ho).2.2) [.node a cs]
  rw [hvalues, shownAll_choice h, List.flatMap_singleton]
  simp only [decode_optionText]
  rcases h with hk | hk <;> simp [values, hk]

/-- The only field that a choice takes over is its id. -/
theorem unquoted_choice (h : a.kind = .select ∨ a.kind = .radioGroup) (hid : '"' ∉ a.id.toList)
    (cs : List Component) : ∀ b ∈ Component.shownAll [.node a cs], b.Unquoted := by
  rw [shownAll_choice h, List.forall_mem_singleton]
  unfold Unquoted verbatim
  rcases h with hk | hk
  · simpa [hk] using hid
  · cases a.options <;> simp [hk, hid]

/-- **The value of an option is an expression for the option exactly if the option
    holds neither an apostrophe nor a backslash; and the member of a choice starts
    with the value of the first option exactly if that holds no carriage return
    either.** -/
theorem choice_values_iff (a : Attributes) (h : a.kind = .select ∨ a.kind = .radioGroup)
    (d : Nat) (cs : List Component) :
    (Holds (Component.render d (.node a cs)) (a.options.map valueText) ∧
      ('"' ∉ a.id.toList → ∃ ns, read (Component.renderPage [.node a cs]) = some ns ∧
        Node.valuesAll "[value]" ns = a.options.map fun o => Html.decode (optionText o))) ∧
    (∀ o ∈ a.options, '"' ∉ (optionText o).toList ∧
      (Literal.expression.read (Html.decode (optionText o)) = some (o, "") ↔
        '\x27' ∉ o.toList ∧ '\\' ∉ o.toList)) ∧
    ∃ f, a.stateField? = some f ∧ f.name = a.selectedName ∧
      (a.options = [] → Literal.script.read f.initial.literal = some ("", "")) ∧
      ∀ o os, a.options = o :: os →
        (Literal.script.read f.initial.literal =
            Literal.expression.read (Html.decode (optionText o)) ↔
          '\x27' ∉ o.toList ∧ '\\' ∉ o.toList ∧ '\r' ∉ o.toList) := by
  have hfield : a.stateField? = some ⟨a.selectedName, .text (a.options.head?.getD "")⟩ := by
    rcases h with hk | hk <;> simp [stateField?, hk]
  refine ⟨⟨holds_valueText h d cs, fun hid => ?_⟩, fun o _ => ⟨quote_not_mem_optionText o, ?_⟩,
    _, hfield, rfl, fun hnil => ?_, fun o os hcons => ?_⟩
  · exact ⟨_, (Component.fills_renderPage (unquoted_choice h hid cs)).read, values_choice h cs⟩
  · rw [decode_optionText, Literal.read_quoted_iff]
  · rw [hnil]
    exact Literal.read_literal ""
  · rw [hcons, decode_optionText]
    exact Literal.read_literal_eq_iff o

/-- A choice with an ampersand in one option and an apostrophe in the other. -/
def quotedSelect : Attributes := { kind := .select, id := "s", options := ["red & blue", "it's"] }

/-- The first option is selected at the start, and the second is no expression. -/
theorem choice_values_quotedSelect :
    (quotedSelect.kind = .select ∨ quotedSelect.kind = .radioGroup) ∧
    '"' ∉ quotedSelect.id.toList ∧
    Holds (Component.render 0 (.node quotedSelect []))
      ["[value]=\"'red &amp; blue'\"", "[value]=\"'it&#39;s'\""] ∧
    (∃ ns, read (Component.renderPage [.node quotedSelect []]) = some ns ∧
      Node.valuesAll "[value]" ns = ["'red & blue'", "'it's'"]) ∧
    Literal.expression.read "'red & blue'" = some ("red & blue", "") ∧
    Literal.expression.read "'it's'" ≠ some ("it's", "") ∧
    ∃ f, quotedSelect.stateField? = some f ∧ f.name = "sSelected" ∧
      Literal.script.read f.initial.literal = Literal.expression.read "'red & blue'" := by
  have hkind : quotedSelect.kind = .select ∨ quotedSelect.kind = .radioGroup := Or.inl rfl
  have hid : '"' ∉ quotedSelect.id.toList := by decide
  obtain ⟨⟨hholds, hread⟩, hvalue, f, hf, hname, -, hfirst⟩ :=
    choice_values_iff quotedSelect hkind 0 []
  refine ⟨hkind, hid, hholds, hread hid, ?_, ?_, f, hf, hname, ?_⟩
  · exact (hvalue "red & blue" (by decide)).2.2 (by decide)
  · exact mt (hvalue "it's" (by decide)).2.1 (by decide)
  · exact (hfirst _ _ rfl).2 (by decide)

/-- **An apostrophe ends the value of its option**, which its literal keeps. -/
theorem apostrophe_ends_value :
    Component.render 0 (.node { kind := .select, id := "s", options := ["it's"] } []) =
      "<select class=\"s\" [(ngModel)]=\"sSelected\">" ++
        "<option [value]=\"'it&#39;s'\">it&#39;s</option></select>" ∧
    Literal.expression.read (Html.decode "'it&#39;s'") = some ("it", "s'") ∧
    Literal.script.read (Initial.text "it's").literal = some ("it's", "") := by
  refine ⟨?_, rfl, rfl⟩
  rw [← String.toList_inj, Component.render, toList_render]
  rfl

end Attributes

end Pagewright
