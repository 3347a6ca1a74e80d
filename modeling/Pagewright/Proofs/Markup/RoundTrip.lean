/-
  The markup of a page is read back as the forest of its components.

  * a block is read as one element around what its children show, whatever the
    depth (`reads_block`);
  * so a component shows its forest (`Component.shows_template`, by induction on
    the tree);
  * `read_renderPage`: the markup of a page is read as the forest of its
    components, if no field that an attribute takes over holds a quotation mark.
-/
import Pagewright.Proofs.Component.Induction
import Pagewright.Proofs.Markup.Leaves
import Pagewright.Proofs.Markup.Pieces

namespace Pagewright

open Text Template Segment Markup

variable {α : Type} {f : α → Template} {g : α → List Node} {xs : List α}

/-! ## Lists of templates -/

/-- Whether a template takes a line. -/
abbrev Template.isShown (t : Template) : Bool := !t.isEmpty

theorem Template.isShown_iff {t : Template} : t.isShown = true ↔ t ≠ [] := by
  simp [isShown]

/-- Templates that take no line show nothing. -/
theorem flatMap_filter_shows (h : ∀ x ∈ xs, (f x).Shows (g x)) :
    (xs.filter fun x => (f x).isShown).flatMap g = xs.flatMap g := by
  induction xs with
  | nil => rfl
  | cons x xs ih =>
    have hrest := ih fun y hy => h y (by simp [hy])
    by_cases hx : f x = []
    · rw [List.filter_cons_of_neg (by simp [hx]), hrest, List.flatMap_cons,
        (h x (by simp)).1 hx, List.nil_append]
    · have hpos : (f x).isShown = true := isShown_iff.2 hx
      rw [List.filter_cons, if_pos hpos, List.flatMap_cons, List.flatMap_cons, hrest]

theorem filter_map_isShown :
    (xs.map f).filter (!·.isEmpty) = (xs.filter fun x => (f x).isShown).map f :=
  List.filter_map

/-- What is left takes a line and is read. -/
theorem reads_of_mem_filter (h : ∀ x ∈ xs, (f x).Shows (g x)) :
    ∀ x ∈ xs.filter fun x => (f x).isShown, Reads true (f x).render.toList (g x) := by
  intro x hx
  obtain ⟨hx, hne⟩ := List.mem_filter.1 hx
  exact (h x hx).2 (isShown_iff.1 hne)

/-- Templates with the beginning of a line between them, read at the top of a page. -/
theorem fills_joined (h : ∀ x ∈ xs, (f x).Shows (g x)) (d : Nat) :
    Fills true (joined [newline d] ((xs.map f).filter (!·.isEmpty))).render.toList
      (xs.flatMap g) := by
  rw [filter_map_isShown, ← flatMap_filter_shows h]
  have hread := reads_of_mem_filter h
  by_cases hne : (xs.filter fun x => (f x).isShown) = []
  · rw [hne]
    exact fills_nil true
  · exact (reads_joined hne hread).body

/-! ## Blocks -/

theorem fills_blockLines (h : ∀ x ∈ xs, (f x).Shows (g x)) (d : Nat) :
    Fills true (blockLines d ((xs.map f).filter (!·.isEmpty))).render.toList (xs.flatMap g) := by
  rw [filter_map_isShown, ← flatMap_filter_shows h]
  have hread := reads_of_mem_filter h
  generalize (xs.filter fun x => (f x).isShown) = ys at hread ⊢
  cases ys with
  | nil => exact fills_nil true
  | cons y ys =>
    have hlines := (fills_blank (isSpace_newline d)).prepend fun x hx =>
      (hread x hx).indent (isSpace_newline (d + 1))
    simpa [blockLines, toList_render_flatMap, List.flatMap_map] using hlines

/-- A block is read as one element around what its children show. -/
theorem reads_block (tag : TagName) (hb : isBlock tag.text = true) {classes : String}
    (hc : '"' ∉ classes.toList) (h : ∀ x ∈ xs, (f x).Shows (g x)) (d : Nat) :
    Reads true (blockTemplate d tag.text classes (xs.map f)).render.toList
      [.element tag.text [attr "class" classes] (xs.flatMap g)] := by
  have hblock := (fills_blockLines h d).element tag [.verbatim "class" (by decide) classes hc] hb
  rw [blockTemplate_eq]
  simpa [blockStart, blockEnd, startText, endText] using hblock

/-! ## Trees -/

namespace Component

/-- A component shows its forest at every depth. -/
theorem shows_template (c : Component) :
    (∀ a ∈ c.shown, a.Unquoted) → ∀ d, (c.template d).Shows c.forest := by
  induction c with
  | node a cs ih =>
    intro h d
    rw [template, forest]
    rw [shown] at h
    cases ho : a.outline with
    | around tag classes =>
      simp only [ho, List.forall_mem_cons] at h
      have hfits := Attributes.fits h.1 d
      rw [ho] at hfits
      rcases hs : a.shape d with ⟨element, classes'⟩ | t
      · rw [hs] at hfits
        obtain ⟨⟨t, rfl⟩, hb, rfl, rfl, hc⟩ := hfits
        have hcs : ∀ c ∈ cs, (c.template (d + 1)).Shows c.forest := fun c hc' =>
          ih c hc' (fun a' ha' => h.2 a' (by
            rw [shownAll_eq_flatMap]
            exact List.mem_flatMap.2 ⟨c, hc', ha'⟩)) (d + 1)
        simp only [templates_eq_map, forests_eq_flatMap]
        exact (reads_block t hb hc hcs d).shows
      · rw [hs] at hfits
        exact hfits.elim
    | nodes ns =>
      simp only [ho, List.forall_mem_singleton] at h
      have hfits := Attributes.fits h d
      rw [ho] at hfits
      rcases hs : a.shape d with ⟨element, classes'⟩ | t
      · rw [hs] at hfits
        exact hfits.elim
      · rw [hs] at hfits
        exact hfits

/-- The markup of a page is read as what its components show, one after the other. -/
theorem fills_renderPage {cs : List Component} (h : ∀ a ∈ shownAll cs, a.Unquoted) :
    Fills true (renderPage cs).toList (forests cs) := by
  have hshows : ∀ c ∈ cs, (c.template 0).Shows c.forest := by
    intro c hc
    refine shows_template c (fun a ha => h a ?_) 0
    rw [shownAll_eq_flatMap]
    exact List.mem_flatMap.2 ⟨c, hc, ha⟩
  rw [renderPage, pageTemplate, templates_eq_map, forests_eq_flatMap]
  exact fills_joined hshows 0

/-- **The markup of a page is read as the forest of its components.** -/
theorem read_renderPage (cs : List Component)
    (h : ∀ a ∈ shownAll cs, ∀ s ∈ a.verbatim, '"' ∉ s.toList) :
    read (renderPage cs) = some (forests cs) := (fills_renderPage h).read

/-- Texts that look like markup come back as texts, and an unknown tag does not
    leave its comment. -/
theorem read_renderPage_hostile :
    (∀ a ∈ shownAll [node { kind := .hFlex, id := "x<y" }
        [node { kind := .text, id := "t", text := some "</p>&lt;" } [],
          node { kind := .radioGroup, id := "r" } [],
          node { kind := .unknown "--><b>", id := "\"" } []]],
      ∀ s ∈ a.verbatim, '"' ∉ s.toList) ∧
    read (renderPage [node { kind := .hFlex, id := "x<y" }
        [node { kind := .text, id := "t", text := some "</p>&lt;" } [],
          node { kind := .radioGroup, id := "r" } [],
          node { kind := .unknown "--><b>", id := "\"" } []]]) =
      some [.element "div" [attr "class" "x<y h-flex"]
        [.element "p" [attr "class" "t"] [.text "</p>&lt;"],
          .comment " Unknown component: - -&gt;&lt;b&gt; "]] :=
  ⟨by decide, read_renderPage _ (by decide)⟩

end Component

end Pagewright
