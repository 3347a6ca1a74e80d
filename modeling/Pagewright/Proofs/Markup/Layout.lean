/-
  The depth of a component is an indentation of its lines.

  A template computes every beginning of a line from the depth that it is
  rendered at.  If no text of a component and of the components inside it breaks
  a line, these are the only line feeds of its markup.

  * `Template.Moved k` compares the templates at two depths: what is written
    behind each line feed is the space of `k` levels;
  * `moved_of_leaf`, `moved_template`: a leaf moves with its depth, and so does
    a tree, by induction with the depth left open;
  * `lines_of_block`: the lines of a block are its tags around the lines of its
    children, two spaces further in;
  * `lines_render` puts this together.
-/
import Pagewright.Proofs.Markup.Children
import Pagewright.Proofs.Text.Lines

namespace Pagewright

open Text Template Segment

/-! ## Texts on one line -/

/-- The texts that a component may have. -/
def Attributes.optionalTexts (a : Attributes) : List (Option String) :=
  [a.cssClass, a.text, a.placeholder, a.src, a.alt, a.href, a.title, a.iconClass, a.action,
    a.inputType, a.direction]

/-- All texts of a component. -/
def Attributes.allTexts (a : Attributes) : List String :=
  a.kind.tag :: a.id :: a.optionalTexts.flatMap Option.toList ++
    a.styles.entries.flatMap (fun p => [p.1, p.2]) ++
    a.options ++ a.items ++ a.headers ++ a.rows.flatten

/-- No text of a component breaks a line. -/
def Attributes.OnOneLine (a : Attributes) : Prop := ∀ s ∈ a.allTexts, '\n' ∉ s.toList

/-- No text of a component or of a component inside it breaks a line. -/
def Component.OnOneLine (c : Component) : Prop := ∀ a ∈ c.preorder, a.OnOneLine

instance (a : Attributes) : Decidable a.OnOneLine := List.decidableBAll _ _

instance (c : Component) : Decidable c.OnOneLine := List.decidableBAll _ _

namespace Attributes.OnOneLine

variable {a : Attributes} (h : a.OnOneLine)
include h

theorem id : '\n' ∉ a.id.toList := h _ (by simp [allTexts])

theorem tag : '\n' ∉ a.kind.tag.toList := h _ (by simp [allTexts])

theorem optional {o : Option String} (ho : o ∈ a.optionalTexts) : ∀ s ∈ o, '\n' ∉ s.toList := by
  intro s hs
  have hmem : s ∈ a.optionalTexts.flatMap Option.toList :=
    List.mem_flatMap.2 ⟨o, ho, by simpa using hs⟩
  exact h s (by simp [allTexts, hmem])

theorem getD {o : Option String} (ho : o ∈ a.optionalTexts) {s : String} (hs : '\n' ∉ s.toList) :
    '\n' ∉ (o.getD s).toList :=
  not_mem_getD (h.optional ho) hs

theorem option {s : String} (hs : s ∈ a.options) : '\n' ∉ s.toList := h s (by simp [allTexts, hs])

theorem item {s : String} (hs : s ∈ a.items) : '\n' ∉ s.toList := h s (by simp [allTexts, hs])

theorem header {s : String} (hs : s ∈ a.headers) : '\n' ∉ s.toList := h s (by simp [allTexts, hs])

theorem cell {row : List String} (hrow : row ∈ a.rows) {s : String} (hs : s ∈ row) :
    '\n' ∉ s.toList := by
  have hmem : s ∈ a.rows.flatten := List.mem_flatten.2 ⟨row, hrow, hs⟩
  exact h s (by simp only [allTexts, List.mem_append]; exact Or.inr hmem)

theorem classes {layout : List String} (hlayout : ∀ s ∈ layout, '\n' ∉ s.toList) :
    '\n' ∉ (a.classes layout).toList := by
  intro hmem
  rcases mem_classes hmem with hmem | ⟨s, hs, hmem⟩
  · exact absurd hmem (by decide)
  · simp only [List.cons_append, List.mem_cons, List.mem_append, Option.mem_toList] at hs
    rcases hs with rfl | hs | hs
    · exact h.id hmem
    · exact h.optional (by simp [optionalTexts]) s hs hmem
    · exact hlayout s hs hmem

end Attributes.OnOneLine

/-- Escaping a text breaks no line. -/
theorem newline_notMem_escape {s : String} (h : '\n' ∉ s.toList) :
    '\n' ∉ (Html.escape s).toList := by
  rw [Html.toList_escape, Html.escapeChars_eq_flatMap, List.mem_flatMap]
  rintro ⟨c, hc, hentity⟩
  rw [Html.entity] at hentity
  split_ifs at hentity
  case neg => exact h (List.mem_singleton.1 hentity ▸ hc)
  all_goals exact absurd hentity (by decide)

theorem newline_notMem_escapeComment {s : String} (h : '\n' ∉ s.toList) :
    '\n' ∉ (Html.escapeComment s).toList := by
  intro hmem
  rcases Html.mem_escapeComment hmem with hmem | hmem
  · exact absurd hmem (by decide)
  · exact newline_notMem_escape h hmem

/-! ## Templates at two depths -/

namespace Template

/-- A template that is written on one line. -/
def Flat (t : Template) : Prop := ∀ s ∈ t, '\n' ∉ s.render.toList

/-- `u` is `t` with the space of `k` levels behind each line feed. -/
def Moved (k : Nat) (t u : Template) : Prop :=
  u.render.toList = substitute '\n' ("\n" ++ indent k) t.render.toList

variable {k : Nat} {t t' u u' : Template}

theorem flat_nil : Flat [] := fun _ hs => absurd hs List.not_mem_nil

theorem flat_cons {s : Segment} : Flat (s :: t) ↔ '\n' ∉ s.render.toList ∧ t.Flat :=
  List.forall_mem_cons

theorem flat_append : Flat (t ++ u) ↔ t.Flat ∧ u.Flat := List.forall_mem_append

theorem flat_flatMap {α : Type} {f : α → Template} {xs : List α} :
    Flat (xs.flatMap f) ↔ ∀ x ∈ xs, (f x).Flat := by
  simp only [Flat, List.forall_mem_flatMap]

theorem Flat.moved (h : t.Flat) : Moved k t t := by
  have hrender : '\n' ∉ t.render.toList := by
    rw [toList_render, List.mem_flatMap]
    rintro ⟨s, hs, hmem⟩
    exact h s hs hmem
  rw [Moved, substitute_of_not_mem hrender]

theorem Moved.append (ht : Moved k t t') (hu : Moved k u u') : Moved k (t ++ u) (t' ++ u') := by
  rw [Moved, toList_render_append, toList_render_append, substitute_append, ht, hu]

/-- A line begins further in. -/
theorem moved_newline (k d : Nat) : Moved k [newline d] [newline (d + k)] := by
  have hspace : List.replicate (2 * (d + k)) ' ' =
      List.replicate (2 * k) ' ' ++ List.replicate (2 * d) ' ' := by
    rw [List.replicate_append_replicate]
    congr 1
    omega
  have hkept : '\n' ∉ List.replicate (2 * d) ' ' := by
    rw [← toList_indent]
    exact newline_notMem_indent d
  rw [Moved, toList_render_cons, toList_render_cons, toList_render_newline, toList_render_newline,
    toList_render_nil, List.append_nil, List.append_nil, substitute_cons, if_pos rfl,
    substitute_of_not_mem hkept, hspace]
  simp

theorem Moved.line (h : Moved k t u) (d : Nat) :
    Moved k (newline d :: t) (newline (d + k) :: u) :=
  (moved_newline k d).append h

theorem moved_flatMap {α : Type} {f g : α → Template} {xs : List α}
    (h : ∀ x ∈ xs, Moved k (f x) (g x)) : Moved k (xs.flatMap f) (xs.flatMap g) := by
  induction xs with
  | nil => exact flat_nil.moved
  | cons x xs ih =>
    rw [List.flatMap_cons, List.flatMap_cons]
    exact (h x (by simp)).append (ih fun y hy => h y (by simp [hy]))

/-- Templates on lines of their own, each of them on one line. -/
theorem moved_joined (k d : Nat) : ∀ {ts : List Template}, (∀ t ∈ ts, t.Flat) →
    Moved k (joined [newline d] ts) (joined [newline (d + k)] ts)
  | [], _ => flat_nil.moved
  | [t], h => (h t (by simp)).moved
  | t :: u :: us, h => by
    have hrest := moved_joined k d fun v (hv : v ∈ u :: us) => h v (List.mem_cons_of_mem t hv)
    exact ((h t (by simp)).moved.append (moved_newline k d)).append hrest

end Template

/-! ## Leaves -/

namespace Attributes

variable {a : Attributes} {d : Nat}

theorem newline_notMem_member {s : String} (h : ∀ c ∈ s.toList, Script.isIdentifierChar c) :
    '\n' ∉ s.toList := fun hmem =>
  absurd (h _ hmem) (by decide)

theorem newline_notMem_modelName : '\n' ∉ a.modelName.toList :=
  newline_notMem_member fun _ => isIdentifierChar_of_mem_modelName

theorem newline_notMem_selectedName : '\n' ∉ a.selectedName.toList :=
  newline_notMem_member fun _ => isIdentifierChar_of_mem_selectedName

theorem newline_notMem_checkedName : '\n' ∉ a.checkedName.toList :=
  newline_notMem_member fun _ => isIdentifierChar_of_mem_checkedName

section
variable (h : a.OnOneLine)
include h

theorem flat_content {o : Option String} (ho : o ∈ a.optionalTexts) :
    '\n' ∉ (content o).render.toList :=
  newline_notMem_escape (h.getD ho (by decide))

theorem flat_button : a.buttonTemplate.Flat := by
  have hclasses : '\n' ∉ (a.classes []).toList := h.classes (by simp)
  have htext := flat_content h (o := a.text) (by simp [optionalTexts])
  unfold buttonTemplate
  cases ha : a.action? with
  | none =>
    simp only [flat_append, flat_cons]
    exact ⟨⟨⟨by decide, hclasses, by decide, flat_nil⟩, flat_nil⟩, by decide, htext, by decide,
      flat_nil⟩
  | some action =>
    have haction : '\n' ∉ action.toList :=
      h.optional (by simp [optionalTexts]) action (Option.filter_eq_some_iff.1 ha).1
    simp only [flat_append, flat_cons]
    exact ⟨⟨⟨by decide, hclasses, by decide, flat_nil⟩, by decide, haction, by decide, flat_nil⟩,
      by decide, htext, by decide, flat_nil⟩

theorem flat_icon : a.iconTemplate.Flat := by
  unfold iconTemplate
  cases hc : a.iconClass.filter (· ≠ "") with
  | none =>
    simp only [flat_cons]
    exact ⟨by decide, h.id, by decide, flat_nil⟩
  | some icon =>
    have hicon : '\n' ∉ icon.toList :=
      h.optional (by simp [optionalTexts]) icon (Option.filter_eq_some_iff.1 hc).1
    simp only [flat_cons]
    exact ⟨by decide, hicon, by decide, h.id, by decide, flat_nil⟩

theorem flat_video : a.videoTemplate.Flat := by
  have hsrc := h.getD (o := a.src) (s := "") (by simp [optionalTexts]) (by decide)
  have hcontrols : '\n' ∉ (if a.controls then " controls" else "").toList := by
    cases a.controls <;> decide
  have hautoplay : '\n' ∉ (if a.autoplay then " autoplay" else "").toList := by
    cases a.autoplay <;> decide
  simp only [videoTemplate, flat_cons]
  exact ⟨by decide, h.id, by decide, hcontrols, hautoplay, by decide, hsrc, by decide, flat_nil⟩

theorem flat_list : a.listTemplate.Flat := by
  have hitem : ∀ item ∈ a.items, '\n' ∉ (Segment.text item).render.toList := fun _ hitem =>
    newline_notMem_escape (h.item hitem)
  unfold listTemplate
  cases a.listKind.getD .unordered <;>
    simp only [flat_append, flat_cons, flat_flatMap] <;>
    exact ⟨⟨⟨by decide, h.id, by decide, flat_nil⟩, fun item hi =>
      ⟨by decide, hitem item hi, by decide, flat_nil⟩⟩, by decide, flat_nil⟩

theorem flat_select : a.selectTemplate.Flat := by
  have hoption : ∀ o ∈ a.options, '\n' ∉ (Segment.text o).render.toList := fun _ ho =>
    newline_notMem_escape (h.option ho)
  simp only [selectTemplate, flat_append, flat_cons, flat_flatMap]
  exact ⟨⟨⟨by decide, h.id, by decide, newline_notMem_selectedName, by decide, flat_nil⟩,
    fun o ho => ⟨by decide, hoption o ho, by decide, hoption o ho, by decide, flat_nil⟩⟩, by decide,
    flat_nil⟩

theorem flat_radio {o : String} (ho : o ∈ a.options) : (a.radioTemplate o).Flat := by
  have hoption : '\n' ∉ (Segment.text o).render.toList := newline_notMem_escape (h.option ho)
  simp only [radioTemplate, flat_cons]
  exact ⟨by decide, h.id, by decide, h.id, by decide, newline_notMem_selectedName, by decide,
    hoption, by decide, hoption, by decide, flat_nil⟩

/-- The buttons of a group move with it. -/
theorem moved_radioGroup (k d : Nat) :
    Moved k (a.radioGroupTemplate d) (a.radioGroupTemplate (d + k)) := by
  refine moved_joined k d fun t ht => ?_
  obtain ⟨o, ho, rfl⟩ := List.mem_map.1 ht
  exact flat_radio h ho

/-- The lines of a table move with it. -/
theorem moved_table (k d : Nat) : Moved k (a.tableTemplate d) (a.tableTemplate (d + k)) := by
  have hrow {element : String} (he : '\n' ∉ element.toList) {cells : List String}
      (hcells : ∀ s ∈ cells, '\n' ∉ s.toList) : (rowTemplate element cells).Flat := by
    have hopen : '\n' ∉ (markup ("<" ++ element ++ ">")).render.toList := by simpa using he
    have hclose : '\n' ∉ (markup ("</" ++ element ++ ">")).render.toList := by simpa using he
    simp only [rowTemplate, flat_append, flat_cons, flat_flatMap]
    exact ⟨⟨⟨by decide, flat_nil⟩, fun cell hcell =>
      ⟨hopen, newline_notMem_escape (hcells cell hcell), hclose, flat_nil⟩⟩, by decide, flat_nil⟩
  have hstart : Flat [markup "<table class=\"", field a.id, markup "\">"] := by
    simp only [flat_cons]
    exact ⟨by decide, h.id, by decide, flat_nil⟩
  have htag (s : String) (hs : '\n' ∉ s.toList) (e : Nat) :
      Moved k [newline e, markup s] [newline (e + k), markup s] :=
    ((flat_cons (s := markup s)).2 ⟨hs, flat_nil⟩).moved.line e
  have hth : '\n' ∉ "th".toList := by decide
  have hheaders := (hrow hth fun _ hs => h.header hs).moved (k := k)
  have hrows : Moved k (a.rows.flatMap fun row => newline (d + 2) :: rowTemplate "td" row)
      (a.rows.flatMap fun row => newline (d + 2 + k) :: rowTemplate "td" row) :=
    moved_flatMap fun row hr =>
      (hrow (by decide) fun _ hs => h.cell hr hs).moved.line (d + 2)
  have hhead := (((hstart.moved.append (htag "<thead>" (by decide) (d + 1))).append
    (moved_newline k (d + 2))).append hheaders).append (htag "</thead>" (by decide) (d + 1))
  have hbody := ((htag "<tbody>" (by decide) (d + 1)).append hrows).append
    (htag "</tbody>" (by decide) (d + 1))
  have htable := (hhead.append hbody).append (htag "</table>" (by decide) d)
  simpa [tableTemplate, Nat.add_right_comm] using htable

/-- A leaf moves with its depth. -/
theorem moved_of_leaf {t : Template} (hs : a.shape d = .leaf t) (k : Nat) :
    ∃ u, a.shape (d + k) = .leaf u ∧ Moved k t u := by
  have htext {o : Option String} (ho : o ∈ a.optionalTexts) := flat_content h ho
  have hgetD {o : Option String} (ho : o ∈ a.optionalTexts) {s : String} (hs : '\n' ∉ s.toList) :
      '\n' ∉ (field (o.getD s)).render.toList := h.getD ho hs
  have htag := h.tag
  unfold optionalTexts at htext hgetD
  unfold shape at hs ⊢
  cases hk : a.kind <;> simp only [hk, reduceCtorEq, Shape.leaf.injEq] at hs ⊢ <;> subst hs <;>
    refine ⟨_, rfl, ?_⟩
  case table => exact moved_table h k d
  case radioGroup => exact moved_radioGroup h k d
  all_goals apply Flat.moved
  case text =>
    simp only [paragraph, flat_cons]
    exact ⟨by decide, h.id, by decide, htext (by simp), by decide, flat_nil⟩
  case button => exact flat_button h
  case image =>
    simp only [imageTemplate, flat_cons]
    exact ⟨by decide, h.id, by decide, hgetD (by simp) (by decide), by decide, htext (by simp),
      by decide, flat_nil⟩
  case icon => exact flat_icon h
  case link =>
    simp only [linkTemplate, flat_cons]
    exact ⟨by decide, h.id, by decide, hgetD (by simp) (by decide), by decide, htext (by simp),
      by decide, flat_nil⟩
  case divider | progress =>
    simp only [dividerTemplate, progressTemplate, flat_cons]
    exact ⟨by decide, h.id, by decide, flat_nil⟩
  case video => exact flat_video h
  case iframe =>
    simp only [iframeTemplate, flat_cons]
    exact ⟨by decide, h.id, by decide, hgetD (by simp) (by decide), by decide, htext (by simp),
      by decide, flat_nil⟩
  case list => exact flat_list h
  case input =>
    simp only [inputTemplate, flat_cons]
    exact ⟨by decide, h.id, by decide, hgetD (by simp) (by decide), by decide, htext (by simp),
      by decide, newline_notMem_modelName, by decide, flat_nil⟩
  case textarea =>
    simp only [textareaTemplate, flat_cons]
    exact ⟨by decide, h.id, by decide, htext (by simp), by decide, newline_notMem_modelName,
      by decide, flat_nil⟩
  case select => exact flat_select h
  case checkbox =>
    simp only [checkboxTemplate, flat_cons]
    exact ⟨by decide, h.id, by decide, newline_notMem_checkedName, by decide, htext (by simp),
      by decide, flat_nil⟩
  case unknown tag =>
    rw [hk] at htag
    simp only [flat_cons]
    exact ⟨by decide, newline_notMem_escapeComment htag, by decide, flat_nil⟩

end

/-- The tags of a block are written on one line. -/
theorem flat_of_block {element classes : String} (h : a.OnOneLine)
    (hs : a.shape d = .block element classes) :
    (Template.blockStart element classes).Flat ∧ (Template.blockEnd element).Flat := by
  have hdirection : ∀ s ∈ ["quick-stack", a.direction.getD "row"], '\n' ∉ s.toList :=
    List.forall_mem_cons.2 ⟨by decide,
      List.forall_mem_singleton.2 (h.getD (by simp [optionalTexts]) (by decide))⟩
  unfold shape at hs
  cases hk : a.kind <;> simp only [hk, reduceCtorEq, Shape.block.injEq] at hs <;>
    obtain ⟨rfl, rfl⟩ := hs <;> simp only [Template.blockStart, Template.blockEnd, flat_cons]
  case quickStack =>
    exact ⟨⟨by decide, h.classes hdirection, by decide, flat_nil⟩, by decide, flat_nil⟩
  all_goals
    exact ⟨⟨by decide, h.classes (by decide), by decide, flat_nil⟩, by decide, flat_nil⟩

/-- Whether a component is a block does not depend on the depth, and neither do
    its tags. -/
theorem shape_of_block {element classes : String} (hs : a.shape d = .block element classes)
    (e : Nat) : a.shape e = .block element classes := by
  unfold shape at hs ⊢
  cases hk : a.kind <;> simp_all

end Attributes

/-! ## Trees -/

namespace Component

variable {a : Attributes} {cs : List Component} {c : Component}

theorem OnOneLine.child (h : (node a cs).OnOneLine) (hc : c ∈ cs) : c.OnOneLine := by
  intro b hb
  refine h b ?_
  rw [preorder, preorderAll_eq_flatMap]
  exact List.mem_cons_of_mem a (List.mem_flatMap.2 ⟨c, hc, hb⟩)

theorem OnOneLine.attrs (h : (node a cs).OnOneLine) : a.OnOneLine :=
  h a (by rw [preorder]; exact List.mem_cons_self)

/-- A tree moves with its depth: the depth is left open, since the children of a
    block are one level further in. -/
theorem moved_template (k : Nat) (c : Component) (h : c.OnOneLine) :
    ∀ d, Moved k (c.template d) (c.template (d + k)) := by
  induction c with
  | node a cs ih =>
    intro d
    cases hs : a.shape d with
    | leaf t =>
      obtain ⟨u, hu, hmoved⟩ := Attributes.moved_of_leaf h.attrs hs k
      rw [template_of_leaf hs, template_of_leaf hu]
      exact hmoved
    | block element classes =>
      obtain ⟨hstart, hend⟩ := Attributes.flat_of_block h.attrs hs
      have hlines : Moved k
          (blockLines d ((cs.filter (!·.isSilent)).map (template (d + 1))))
          (blockLines (d + k) ((cs.filter (!·.isSilent)).map (template (d + k + 1)))) := by
        have hchild : ∀ c ∈ cs.filter (!·.isSilent),
            Moved k (newline (d + 1) :: c.template (d + 1))
              (newline (d + k + 1) :: c.template (d + k + 1)) := by
          intro c hc
          have hmem : c ∈ cs := List.mem_of_mem_filter hc
          have hmoved := (ih c hmem (h.child hmem) (d + 1)).line (d + 1)
          rwa [Nat.add_right_comm] at hmoved
        unfold blockLines
        by_cases hshown : cs.filter (!·.isSilent) = []
        · rw [hshown]
          exact flat_nil.moved
        · rw [if_neg (by simpa using hshown), if_neg (by simpa using hshown), List.flatMap_map,
            List.flatMap_map]
          exact (moved_flatMap hchild).append (moved_newline k d)
      rw [template_of_block hs, template_of_block (Attributes.shape_of_block hs (d + k)),
        blockTemplate_eq, blockTemplate_eq, filter_templates, filter_templates]
      exact (hstart.moved.append hlines).append hend.moved

/-- The lines of a tree at a depth hang from its first line. -/
theorem linesOf_render (h : c.OnOneLine) (d : Nat) :
    linesOf (c.render d) = hang d (linesOf (c.render 0)) := by
  have hmoved := moved_template d c h 0
  rw [Nat.zero_add] at hmoved
  exact linesOf_substitute hmoved

/-- Children that are rendered to nothing are the silent ones. -/
theorem filter_render (cs : List Component) :
    cs.filter (fun c => c.render 0 ≠ "") = cs.filter (!·.isSilent) := by
  refine List.filter_congr fun c _ => ?_
  by_cases hs : c.isSilent
  · simp [hs, render_eq_empty_iff.2 hs]
  · simp [hs, render_eq_empty_iff]

/-- The children of a block that has any markup inside take the lines between its
    tags, two spaces further in. -/
theorem linesOf_childLines {opening closing : String} (ho : '\n' ∉ opening.toList)
    (hc : '\n' ∉ closing.toList) (h : ∀ c ∈ cs, c.OnOneLine)
    (hne : cs.filter (!·.isSilent) ≠ []) :
    linesOf (opening ++ childLines 0 cs ++ closing) =
      opening :: (cs.filter (!·.isSilent)).flatMap
        (fun c => (linesOf (c.render 0)).map ("  " ++ ·)) ++ [closing] := by
  have hchild : ∀ c ∈ cs.filter (!·.isSilent), linesOf (indent 1 ++ c.render 1) =
      (linesOf (c.render 0)).map ("  " ++ ·) := fun c hc =>
    linesOf_indent (linesOf_render (h c (List.mem_of_mem_filter hc)) 1)
  rw [childLines]
  revert hne hchild
  generalize cs.filter (!·.isSilent) = shown
  intro hne hchild
  have htexts : opening ++ (String.join (shown.map fun c => "\n" ++ indent 1 ++ c.render 1) ++
        "\n" ++ indent 0) ++ closing =
      opening ++ String.join ((shown.map fun c => indent 1 ++ c.render 1).map ("\n" ++ ·)) ++
        "\n" ++ closing := by
    simp [← String.toList_inj, String.toList_join, List.flatMap_map]
  rw [if_neg (by simpa using hne), htexts, linesOf_append, linesOf_hanging, linesOf_of_not_mem ho,
    linesOf_of_not_mem hc, List.flatMap_map, List.flatMap_congr hchild]
  rfl

/-- The lines of a block at depth 0: its tags around the lines of its children, or
    its tags on one line. -/
theorem lines_of_block {element classes : String} (h : (node a cs).OnOneLine)
    (hs : a.shape 0 = .block element classes) :
    linesOf ((node a cs).render 0) =
      let opening := "<" ++ element ++ " class=\"" ++ classes ++ "\">"
      let closing := "</" ++ element ++ ">"
      let shown := cs.filter fun c => c.render 0 ≠ ""
      if shown = [] then [opening ++ closing]
      else opening :: shown.flatMap (fun c => (linesOf (c.render 0)).map ("  " ++ ·)) ++
        [closing] := by
  obtain ⟨hstart, hend⟩ := Attributes.flat_of_block h.attrs hs
  have ho : '\n' ∉ ("<" ++ element ++ " class=\"" ++ classes ++ "\">").toList := by
    simpa [Template.blockStart, flat_cons, flat_nil, and_assoc] using hstart
  have hc : '\n' ∉ ("</" ++ element ++ ">").toList := by
    simpa [Template.blockEnd, flat_cons, flat_nil] using hend
  have hrender : (node a cs).render 0 =
      "<" ++ element ++ " class=\"" ++ classes ++ "\">" ++ childLines 0 cs ++
        ("</" ++ element ++ ">") := by
    rw [render_of_block hs]
    simp only [String.append_assoc]
  rw [hrender, filter_render]
  by_cases hnone : cs.filter (!·.isSilent) = []
  · have hsilent : ∀ c ∈ cs, c.isSilent := by simpa using hnone
    have hone : '\n' ∉ ("<" ++ element ++ " class=\"" ++ classes ++ "\">" ++
        ("</" ++ element ++ ">")).toList := by
      rw [String.toList_append, List.mem_append, not_or]
      exact ⟨ho, hc⟩
    rw [childLines_eq_empty_iff.2 hsilent, String.append_empty, linesOf_of_not_mem hone]
    exact (if_pos hnone).symm
  · rw [linesOf_childLines ho hc (fun c hc => h.child hc) hnone]
    exact (if_neg hnone).symm

/-- **The depth of a component is nothing but an indentation of its lines.**  At
    every depth the first line is the same, and the others stand that much further
    in.  So a block is its opening tag, the lines of the children with markup two
    spaces further in, and its closing tag; without any, it is one line. -/
theorem lines_render (a : Attributes) (cs : List Component) (h : (node a cs).OnOneLine) (d : Nat) :
    linesOf ((node a cs).render d) = hang d (linesOf ((node a cs).render 0)) ∧
    (a.kind.isBlock → ∃ element classes, a.shape d = .block element classes ∧
      linesOf ((node a cs).render 0) =
        let opening := "<" ++ element ++ " class=\"" ++ classes ++ "\">"
        let closing := "</" ++ element ++ ">"
        let shown := cs.filter fun c => c.render 0 ≠ ""
        if shown = [] then [opening ++ closing]
        else opening :: shown.flatMap (fun c => (linesOf (c.render 0)).map ("  " ++ ·)) ++
          [closing]) := by
  refine ⟨linesOf_render h d, fun hblock => ?_⟩
  obtain ⟨element, classes, hs⟩ := Attributes.isBlock_iff.1 hblock
  exact ⟨element, classes, hs, lines_of_block h (Attributes.shape_of_block hs 0)⟩

/-- A card with a table, and with a group of radio buttons without options. -/
def tableCard : Component :=
  node { kind := .card, id := "c" }
    [node { kind := .table, id := "t", headers := ["A"], rows := [["1"]] } [],
      ofKind .radioGroup "r"]

/-- The lines of the table stand two spaces further in than the card, and the group
    without options takes none. -/
theorem lines_render_tableCard :
    tableCard.OnOneLine ∧
      linesOf (tableCard.render 3) = hang 3 (linesOf (tableCard.render 0)) ∧
      linesOf (tableCard.render 0) =
        ["<div class=\"c\">", "  <table class=\"t\">", "    <thead>", "      <tr><th>A</th></tr>",
          "    </thead>", "    <tbody>", "      <tr><td>1</td></tr>", "    </tbody>", "  </table>",
          "</div>"] := by
  have h : tableCard.OnOneLine := by decide
  refine ⟨h, (lines_render _ _ h 3).1, ?_⟩
  rw [linesOf, render, toList_render]
  decide +kernel

end Component

end Pagewright
