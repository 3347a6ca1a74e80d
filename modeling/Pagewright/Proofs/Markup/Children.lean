/-
  What becomes of the children of a component.

  * `Kind.isBlock` tells the kinds that are an element around their children,
    `Component.isSilent` the components without any markup;
  * `render_of_leaf`: all other kinds are rendered as if they had no children;
  * `render_of_block`: a block holds the markup of its children, in order, each
    on a line of its own, and nothing but that;
  * `Encloses` goes from a component down to one below it, through blocks only:
    its markup is then found inside the markup of the upper one
    (`Encloses.infix_render`), and of the page;
  * `prune` leaves out what stands below a component of another kind: the page
    is rendered the same (`renderPage_pruneAll`), and what is left is enclosed by
    it (`encloses_of_mem_prune`);
  * `children_in_markup` puts this together.  What is left out still takes part
    in the style sheet and in the class of the page:
    `children_in_markup_paragraph` is such a page.
-/
import Pagewright.Proofs.Markup.Leaves
import Pagewright.Proofs.Markup.Pieces
import Pagewright.Proofs.Page.Members
import Pagewright.Validation.Basic

namespace Pagewright

open Text Template Segment

/-! ## Blocks and silent components -/

/-- Whether a component of a kind is an element around its children. -/
def Kind.isBlock : Kind → Bool
  | .container | .card | .grid | .formGroup | .tabs | .accordion | .section_ | .quickStack
  | .vFlex | .hFlex | .pageSlot | .nav => true
  | _ => false

/-- Whether a component has no markup: a group of radio buttons without options. -/
def Component.isSilent (c : Component) : Bool :=
  c.attrs.kind = .radioGroup && c.attrs.options.isEmpty

namespace Attributes

variable {a : Attributes} {d : Nat}

/-- The kinds that are rendered as an element around the children are the blocks. -/
theorem isBlock_iff : a.kind.isBlock ↔ ∃ element classes, a.shape d = .block element classes := by
  unfold Attributes.shape Kind.isBlock
  cases a.kind <;> simp

theorem isBlock_of_block {element classes : String} (h : a.shape d = .block element classes) :
    a.kind.isBlock :=
  isBlock_iff.2 ⟨element, classes, h⟩

end Attributes

/-! ## Components with markup -/

/-- A template that begins with markup of the emitter. -/
def Template.Opens (t : Template) : Prop := ∃ s u, s ≠ "" ∧ t = markup s :: u

namespace Template.Opens

variable {t u : Template}

theorem cons {s : String} (hs : s ≠ "") (u : Template) : Opens (markup s :: u) := ⟨s, u, hs, rfl⟩

theorem append (h : t.Opens) (u : Template) : (t ++ u).Opens := by
  obtain ⟨s, v, hs, rfl⟩ := h
  exact cons hs (v ++ u)

theorem ne_nil (h : t.Opens) : t ≠ [] := by
  obtain ⟨s, v, -, rfl⟩ := h
  exact List.cons_ne_nil _ v

theorem render_ne_empty (h : t.Opens) : t.render ≠ "" := by
  obtain ⟨s, v, hs, rfl⟩ := h
  rw [← String.toList_inj.ne, toList_render_cons]
  simp [hs]

end Template.Opens

namespace Attributes

variable {a : Attributes} {d : Nat} {t : Template}

/-- The buttons of a group begin with markup, if there are any. -/
theorem opens_radioGroupTemplate (d : Nat) (h : a.options ≠ []) :
    (a.radioGroupTemplate d).Opens := by
  obtain ⟨o, os, ho⟩ := List.exists_cons_of_ne_nil h
  have hfirst : (a.radioTemplate o).Opens := .cons (by decide) _
  rw [radioGroupTemplate, ho]
  cases os with
  | nil => exact hfirst
  | cons o' os => exact (hfirst.append _).append _

/-- An icon begins with markup, with and without a class of its own. -/
theorem opens_iconTemplate : a.iconTemplate.Opens := by
  unfold iconTemplate
  split <;> exact .cons (by decide) _

/-- A list begins with markup. -/
theorem opens_listTemplate : a.listTemplate.Opens := by
  have hmarkup (element : String) : "<" ++ element ++ " class=\"" ≠ "" := by
    simp [← String.toList_inj.ne]
  exact .cons (hmarkup _) _

/-- A leaf begins with markup, unless it is a group of radio buttons without
    options. -/
theorem opens_of_leaf (h : a.shape d = .leaf t)
    (hs : a.kind = .radioGroup → a.options ≠ []) : t.Opens := by
  unfold shape at h
  cases hk : a.kind <;> rw [hk] at h <;> cases h
  case radioGroup => exact opens_radioGroupTemplate d (hs hk)
  case icon => exact opens_iconTemplate
  case list => exact opens_listTemplate
  all_goals exact .cons (by decide) _

end Attributes

namespace Component

variable {a : Attributes} {cs : List Component} {c : Component} {d : Nat}

@[simp] theorem isSilent_node :
    (node a cs).isSilent = true ↔ a.kind = .radioGroup ∧ a.options = [] := by
  rw [isSilent, Bool.and_eq_true_iff, decide_eq_true_iff, List.isEmpty_iff]
  rfl

theorem template_of_leaf {t : Template} (h : a.shape d = .leaf t) (cs : List Component) :
    (node a cs).template d = t := by
  rw [template, h]

theorem template_of_block {element classes : String} (h : a.shape d = .block element classes)
    (cs : List Component) :
    (node a cs).template d =
      blockTemplate d element classes (cs.map (template (d + 1))) := by
  rw [template, h, ← templates_eq_map]

theorem template_of_isSilent (h : c.isSilent) (d : Nat) : c.template d = [] := by
  obtain ⟨a, cs⟩ := c
  obtain ⟨hk, ho⟩ := isSilent_node.1 h
  have hshape : a.shape d = .leaf (a.radioGroupTemplate d) := by simp [Attributes.shape, hk]
  rw [template_of_leaf hshape, Attributes.radioGroupTemplate, ho]
  rfl

theorem opens_template (h : ¬c.isSilent) (d : Nat) : (c.template d).Opens := by
  obtain ⟨a, cs⟩ := c
  rw [isSilent_node, not_and] at h
  cases hs : a.shape d with
  | block element classes =>
    rw [template_of_block hs, blockTemplate_eq]
    have hstart : (blockStart element classes).Opens :=
      .cons (by simp [← String.toList_inj.ne]) _
    exact (hstart.append _).append _
  | leaf t =>
    rw [template_of_leaf hs]
    exact Attributes.opens_of_leaf hs h

/-- The components without markup are the silent ones. -/
theorem render_eq_empty_iff : c.render d = "" ↔ c.isSilent := by
  constructor
  · intro h
    by_contra hs
    exact (opens_template hs d).render_ne_empty h
  · intro h
    rw [render, template_of_isSilent h, render_nil]

/-- The templates that take a line are those of the components with markup. -/
theorem filter_templates (cs : List Component) (d : Nat) :
    (cs.map (template d)).filter (!·.isEmpty) =
      (cs.filter (!·.isSilent)).map (template d) := by
  rw [List.filter_map]
  congr 1
  refine List.filter_congr fun c _ => ?_
  by_cases hs : c.isSilent
  · simp [hs, template_of_isSilent hs]
  · simp [hs, (opens_template hs d).ne_nil]

/-! ## Children -/

/-- The lines between the tags of a block at a depth: one for each child with
    markup, in order, two spaces further in.  Without any, the tags are on one
    line. -/
def childLines (d : Nat) (cs : List Component) : String :=
  let shown := cs.filter (!·.isSilent)
  if shown.isEmpty then ""
  else String.join (shown.map fun c => "\n" ++ indent (d + 1) ++ c.render (d + 1)) ++
    "\n" ++ indent d

theorem render_blockLines (d : Nat) (cs : List Component) :
    (blockLines d ((cs.map (template (d + 1))).filter (!·.isEmpty))).render = childLines d cs := by
  rw [filter_templates, blockLines, childLines]
  generalize cs.filter (!·.isSilent) = shown
  cases shown with
  | nil => rfl
  | cons c cs =>
    rw [if_neg (by simp), if_neg (by simp)]
    simp [← String.toList_inj, toList_render_flatMap, String.toList_join, List.flatMap_map,
      newline, render]

/-- A component of another kind than a block is rendered as if it had no children. -/
theorem render_of_leaf {t : Template} (h : a.shape d = .leaf t) (cs : List Component) :
    (node a cs).render d = (node a []).render d := by
  rw [render, render, template_of_leaf h, template_of_leaf h]

/-- A block is rendered as its tags around the lines of its children. -/
theorem render_of_block {element classes : String} (h : a.shape d = .block element classes)
    (cs : List Component) :
    (node a cs).render d =
      "<" ++ element ++ " class=\"" ++ classes ++ "\">" ++ childLines d cs ++
        "</" ++ element ++ ">" := by
  rw [render, template_of_block h, blockTemplate_eq, render_append, render_append,
    render_blockLines]
  simp [← String.toList_inj, blockStart, blockEnd]

/-- There are no lines exactly if no child has markup. -/
theorem childLines_eq_empty_iff : childLines d cs = "" ↔ ∀ c ∈ cs, c.isSilent := by
  rw [childLines]
  split_ifs with h
  · simpa using h
  · have hsome : ∃ c ∈ cs, c.isSilent = false := by simpa using h
    rw [← String.toList_inj]
    simpa using hsome

/-- The children of a component have a part in its markup exactly if it is a block
    and one of them has markup. -/
theorem render_eq_childless_iff :
    (node a cs).render d = (node a []).render d ↔ ¬a.kind.isBlock ∨ ∀ c ∈ cs, c.isSilent := by
  cases h : a.shape d with
  | block element classes =>
    have hblock := Attributes.isBlock_of_block h
    have hnone : childLines d [] = "" := childLines_eq_empty_iff.2 (by simp)
    rw [render_of_block h, render_of_block h, hnone, ← childLines_eq_empty_iff (d := d),
      ← String.toList_inj]
    simp [hblock]
  | leaf t =>
    have hleaf : ¬a.kind.isBlock := by
      rw [Attributes.isBlock_iff (d := d), h]
      simp
    simp [hleaf, render_of_leaf h]

/-- The markup of a child is found in the lines of its block. -/
theorem infix_childLines (hc : c ∈ cs) :
    (c.render (d + 1)).toList <:+: (childLines d cs).toList := by
  by_cases hs : c.isSilent
  · rw [render_eq_empty_iff.2 hs]
    exact List.nil_infix
  · have hshown : c ∈ cs.filter (!·.isSilent) := by simp [hc, hs]
    have hline : (c.render (d + 1)).toList <:+:
        ("\n" ++ indent (d + 1) ++ c.render (d + 1)).toList := by
      rw [String.toList_append]
      exact (List.suffix_append _ _).isInfix
    have hlines := List.infix_of_mem_flatten <|
      List.mem_map_of_mem (f := fun c => ("\n" ++ indent (d + 1) ++ c.render (d + 1)).toList) hshown
    have hshown' : ¬(cs.filter (!·.isSilent)).isEmpty := by
      simpa using ⟨c, hc, by simpa using hs⟩
    rw [childLines, if_neg hshown', String.append_assoc, String.toList_append,
      String.toList_join, List.flatMap_map]
    exact (hline.trans hlines).trans (List.prefix_append _ _).isInfix

/-! ## Trees -/

/-- A component at a depth stands around another one, with nothing but blocks in
    between. -/
inductive Encloses : Nat → Component → Nat → Component → Prop
  | refl (d : Nat) (c : Component) : Encloses d c d c
  | child {d e : Nat} {a : Attributes} {cs : List Component} {c n : Component}
      (block : a.kind.isBlock) (mem : c ∈ cs) (below : Encloses (d + 1) c e n) :
      Encloses d (node a cs) e n

/-- What stands inside a component through blocks only is found in its markup. -/
theorem Encloses.infix_render {e : Nat} {n : Component} (h : Encloses d c e n) :
    (n.render e).toList <:+: (c.render d).toList := by
  induction h with
  | refl d c => exact List.infix_refl _
  | @child d e a cs c n block mem _ ih =>
    obtain ⟨element, classes, hs⟩ := Attributes.isBlock_iff.1 block
    have hlines := ih.trans (infix_childLines mem)
    have htags : ((node a cs).render d).toList =
        ("<" ++ element ++ " class=\"" ++ classes ++ "\">").toList ++ (childLines d cs).toList ++
          ("</" ++ element ++ ">").toList := by
      rw [render_of_block hs]
      simp
    rw [htags]
    exact hlines.trans (List.infix_append _ _ _)

/-! ## Pages -/

theorem infix_joined {t separator : Template} :
    ∀ {ts : List Template}, t ∈ ts →
      t.render.toList <:+: (joined separator ts).render.toList
  | [], h => absurd h List.not_mem_nil
  | [u], h => by
    rw [List.mem_singleton.1 h]
    exact List.infix_refl _
  | u :: v :: us, h => by
    have hjoined : joined separator (u :: v :: us) = u ++ separator ++ joined separator (v :: us) :=
      rfl
    rw [hjoined, toList_render_append, toList_render_append]
    rcases List.mem_cons.1 h with rfl | h
    · rw [List.append_assoc]
      exact (List.prefix_append _ _).isInfix
    · exact (infix_joined h).trans (List.suffix_append _ _).isInfix

/-- The markup of a component at the top of a page is found in the markup of the
    page. -/
theorem infix_renderPage (hc : c ∈ cs) :
    (c.render 0).toList <:+: (renderPage cs).toList := by
  by_cases hs : c.isSilent
  · rw [render_eq_empty_iff.2 hs]
    exact List.nil_infix
  · rw [render, renderPage, pageTemplate, templates_eq_map]
    apply infix_joined
    have hne := (opens_template hs 0).ne_nil
    simpa using ⟨⟨c, hc, rfl⟩, hne⟩

/-! ## What is lost -/

mutual

/-- A component without what stands below components of other kinds than blocks. -/
def prune : Component → Component
  | node a cs => node a (if a.kind.isBlock then pruneAll cs else [])

/-- A list of components, each without what stands below other kinds than blocks. -/
def pruneAll : List Component → List Component
  | [] => []
  | c :: cs => prune c :: pruneAll cs

end

theorem pruneAll_eq_map (cs : List Component) : pruneAll cs = cs.map prune := by
  induction cs with
  | nil => rfl
  | cons c cs ih => simp [pruneAll, ih]

/-- What `prune` takes away has no part in the template. -/
theorem template_prune (c : Component) : ∀ d, (prune c).template d = c.template d := by
  induction c with
  | node a cs ih =>
    intro d
    rw [prune]
    cases hs : a.shape d with
    | block element classes =>
      rw [if_pos (Attributes.isBlock_of_block hs), pruneAll_eq_map, template_of_block hs,
        template_of_block hs, List.map_map]
      congr 1
      exact List.map_congr_left fun c hc => ih c hc (d + 1)
    | leaf t => rw [template_of_leaf hs, template_of_leaf hs]

theorem renderPage_pruneAll (cs : List Component) : renderPage (pruneAll cs) = renderPage cs := by
  rw [renderPage, renderPage, pageTemplate, pageTemplate, templates_eq_map, templates_eq_map,
    pruneAll_eq_map, List.map_map]
  congr 4
  exact funext fun c => template_prune c 0

/-- What `prune` leaves stands inside the component, with nothing but blocks in
    between. -/
theorem encloses_of_mem_prune {b : Attributes} (c : Component) (hb : b ∈ (prune c).preorder) :
    ∀ d, ∃ e bs, Encloses d c e (node b bs) := by
  induction c with
  | node a cs ih =>
    intro d
    rw [prune, preorder] at hb
    rcases List.mem_cons.1 hb with rfl | hb
    · exact ⟨d, cs, .refl d _⟩
    · by_cases hblock : a.kind.isBlock
      · rw [if_pos hblock, preorderAll_eq_flatMap, pruneAll_eq_map] at hb
        obtain ⟨c', hc', hb⟩ := List.mem_flatMap.1 hb
        obtain ⟨c, hc, rfl⟩ := List.mem_map.1 hc'
        obtain ⟨e, bs, h⟩ := ih c hc hb (d + 1)
        exact ⟨e, bs, .child hblock hc h⟩
      · rw [if_neg hblock, preorderAll] at hb
        exact absurd hb List.not_mem_nil

/-! ## Children in the markup -/

/-- **A block holds the markup of its children, in order, and no other component
    shows its children.**  Only groups of radio buttons without options have no
    markup.  What stands in blocks only is found in the markup of its page;
    whatever else there is leaves no trace in it. -/
theorem children_in_markup (p : Page) (a : Attributes) (cs : List Component) (d : Nat) :
    (a.kind.isBlock → ∃ element classes, a.shape d = .block element classes ∧
      (node a cs).render d =
        "<" ++ element ++ " class=\"" ++ classes ++ "\">" ++ childLines d cs ++
          "</" ++ element ++ ">") ∧
    ((node a cs).render d = (node a []).render d ↔ ¬a.kind.isBlock ∨ ∀ c ∈ cs, c.isSilent) ∧
    ((node a cs).render d = "" ↔ (node a cs).isSilent) ∧
    (∀ c ∈ p.components, Encloses 0 c d (node a cs) →
      ((node a cs).render d).toList <:+: (renderPage p.components).toList) ∧
    (a ∈ preorderAll (pruneAll p.components) →
      ∃ c ∈ p.components, ∃ e bs, Encloses 0 c e (node a bs)) ∧
    renderPage (pruneAll p.components) = renderPage p.components := by
  refine ⟨?_, render_eq_childless_iff, render_eq_empty_iff, ?_, ?_,
    renderPage_pruneAll p.components⟩
  · intro hblock
    obtain ⟨element, classes, hs⟩ := Attributes.isBlock_iff.1 hblock
    exact ⟨element, classes, hs, render_of_block hs cs⟩
  · intro c hc h
    exact h.infix_render.trans (infix_renderPage hc)
  · intro ha
    rw [preorderAll_eq_flatMap, pruneAll_eq_map] at ha
    obtain ⟨c', hc', ha⟩ := List.mem_flatMap.1 ha
    obtain ⟨c, hc, rfl⟩ := List.mem_map.1 hc'
    obtain ⟨e, bs, h⟩ := encloses_of_mem_prune c ha 0
    exact ⟨c, hc, e, bs, h⟩

/-- An input without anything in it. -/
def plainInput : Component := ofKind .input "x"

/-- A section with a row around an input. -/
def inputSection : Component :=
  node { kind := .section_, id := "s" } [node { kind := .quickStack, id := "q" } [plainInput]]

/-- The input is two levels in, and its markup is found in that of the page. -/
theorem children_in_markup_inputSection :
    Encloses 0 inputSection 2 plainInput ∧ ¬plainInput.isSilent ∧
      (plainInput.render 2).toList <:+: (renderPage [inputSection]).toList := by
  have h : Encloses 0 inputSection 2 plainInput :=
    .child rfl (List.mem_singleton_self _) <|
      .child rfl (List.mem_singleton_self _) (.refl 2 plainInput)
  obtain ⟨-, -, -, hfound, -⟩ :=
    children_in_markup ⟨"p", [inputSection]⟩ { kind := .input, id := "x" } [] 2
  exact ⟨h, by decide, hfound inputSection (List.mem_singleton_self _) h⟩

/-- A page with an input inside a paragraph. -/
def paragraphPage : Page where
  name := "p"
  components := [node { kind := .text, id := "t" } [plainInput]]

/-- **A page is accepted although children are lost**: the input inside the
    paragraph has a property in the class of the page, but no markup. -/
theorem children_in_markup_paragraph :
    Page.validate [paragraphPage] = [] ∧ Kind.text.isUnknown = false ∧
      paragraphPage.fieldNames = ["xModel"] ∧
      renderPage paragraphPage.components = "<p class=\"t\"></p>" ∧
      ∀ d, ¬(plainInput.render d).toList <:+: (renderPage paragraphPage.components).toList := by
  have hpage : renderPage paragraphPage.components = "<p class=\"t\"></p>" := by
    rw [← String.toList_inj, renderPage, toList_render]
    rfl
  refine ⟨by decide +kernel, rfl, by decide +kernel, hpage, fun d h => ?_⟩
  have hinput : plainInput.render d =
      "<input class=\"x\" type=\"text\" placeholder=\"\" [(ngModel)]=\"xModel\" />" := by
    rw [← String.toList_inj, render, toList_render]
    rfl
  rw [hpage, hinput] at h
  exact absurd h.length_le (by decide)

end Component

end Pagewright
