/-
  The characters that a template writes on its own.

  The markup of the emitter is spelled with few characters (`isMarkupChar`):
  ASCII letters and digits, the signs of tags and attributes, spaces and line
  feeds.  A field that is taken over as it stands brings its own.

  * `Drawn l s`: every character of `s` is one of the markup or of a text in `l`;
  * `Segment.Spelled l`: markup is spelled with characters of the markup, and
    fields are drawn from `l`;
  * `spelled_pageTemplate`: the template of a page is spelled with the fields
    that its components give as they stand, and nothing else;
  * `Segment.Spelled.not_mem`: so a character outside the markup that is in none
    of these fields is in no segment but those of an author.
-/
import Pagewright.Proofs.Markup.Leaves
import Pagewright.Proofs.Markup.Pieces

namespace Pagewright

open Template Segment

/-! ## Characters -/

/-- The characters that markup is spelled with. -/
def isMarkupChar (c : Char) : Bool :=
  c.isAlphanum || c ∈ ['<', '>', '/', '=', '"', '\x27', '(', ')', '[', ']', '!', ':', '-', '_',
    ' ', '\n']

/-- Every character of `s` is one of the markup or of a text in `l`. -/
def Drawn (l : List String) (s : String) : Prop :=
  ∀ c ∈ s.toList, isMarkupChar c ∨ ∃ v ∈ l, c ∈ v.toList

section
variable {l l' : List String} {s t : String}

theorem Drawn.mono (h : Drawn l s) (hl : l ⊆ l') : Drawn l' s := by
  intro c hc
  rcases h c hc with h | ⟨v, hv, h⟩
  · exact Or.inl h
  · exact Or.inr ⟨v, hl hv, h⟩

theorem drawn_of_mem (h : s ∈ l) : Drawn l s := fun _ hc => Or.inr ⟨s, h, hc⟩

theorem drawn_of_all (h : s.toList.all isMarkupChar) : Drawn l s := fun c hc =>
  Or.inl (List.all_eq_true.1 h c hc)

theorem Drawn.getD {o : Option String} (hs : Drawn l s) (ho : ∀ t ∈ o, t ∈ l) :
    Drawn l (o.getD s) := by
  cases o with
  | none => exact hs
  | some t => exact drawn_of_mem (ho t rfl)

theorem isMarkupChar_of_isIdentifierChar {c : Char} (h : Script.isIdentifierChar c) :
    isMarkupChar c := by
  simp only [Script.isIdentifierChar, Bool.or_eq_true, beq_iff_eq] at h
  rcases h with h | rfl
  · simp [isMarkupChar, h]
  · rfl

end

/-! ## Segments -/

/-- Markup is spelled with characters of the markup, and a field is drawn from `l`. -/
def Segment.Spelled (l : List String) : Segment → Prop
  | markup s => s.toList.all isMarkupChar
  | field s => Drawn l s
  | _ => True

/-- A character outside the markup that is in no field is in no segment but those
    of an author. -/
theorem Segment.Spelled.not_mem {l : List String} {s : Segment} (h : s.Spelled l)
    (hs : s.isAuthored = false) {c : Char} (hc : isMarkupChar c = false)
    (hl : ∀ v ∈ l, c ∉ v.toList) : c ∉ s.render.toList := by
  intro hmem
  cases s with
  | markup s =>
    have hmarkup := List.all_eq_true.1 h c hmem
    simp [hc] at hmarkup
  | field s =>
    rcases h c hmem with hmarkup | ⟨v, hv, hmem⟩
    · simp [hc] at hmarkup
    · exact hl v hv hmem
  | text s | remark s => simp [isAuthored] at hs

theorem Segment.Spelled.mono {l l' : List String} {s : Segment} (h : s.Spelled l) (hl : l ⊆ l') :
    s.Spelled l' := by
  cases s with
  | field s => exact Drawn.mono h hl
  | markup s => exact h
  | text s | remark s => trivial

namespace Template

/-- All segments of a template are spelled with characters of the markup and of
    `l`. -/
def Spelled (l : List String) (t : Template) : Prop := ∀ s ∈ t, s.Spelled l

variable {l : List String} {t u : Template}

theorem spelled_nil : Spelled l [] := by
  intro s hs
  simp at hs

theorem spelled_cons {s : Segment} : Spelled l (s :: t) ↔ s.Spelled l ∧ t.Spelled l :=
  List.forall_mem_cons

theorem spelled_append : Spelled l (t ++ u) ↔ t.Spelled l ∧ u.Spelled l :=
  List.forall_mem_append

theorem spelled_flatMap {α : Type} {f : α → Template} {xs : List α} :
    Spelled l (xs.flatMap f) ↔ ∀ x ∈ xs, (f x).Spelled l := by
  simp only [Spelled, List.forall_mem_flatMap]

end Template

theorem spelled_newline (l : List String) (d : Nat) : (newline d).Spelled l := by
  refine List.all_eq_true.2 fun c hc => ?_
  have hc : c ∈ (newline d).render.toList := hc
  rw [toList_render_newline] at hc
  rcases List.mem_cons.1 hc with rfl | hc
  · rfl
  · rw [(List.mem_replicate.1 hc).2]
    rfl

namespace Attributes

variable {a : Attributes}

section
variable {l : List String}

theorem drawn_modelName : Drawn l a.modelName := fun _ hc =>
  Or.inl (isMarkupChar_of_isIdentifierChar (isIdentifierChar_of_mem_modelName hc))

theorem drawn_selectedName : Drawn l a.selectedName := fun _ hc =>
  Or.inl (isMarkupChar_of_isIdentifierChar (isIdentifierChar_of_mem_selectedName hc))

theorem drawn_checkedName : Drawn l a.checkedName := fun _ hc =>
  Or.inl (isMarkupChar_of_isIdentifierChar (isIdentifierChar_of_mem_checkedName hc))

theorem drawn_classes {layout : List String} (hid : a.id ∈ l) (hclass : ∀ s ∈ a.cssClass, s ∈ l)
    (hlayout : ∀ s ∈ layout, Drawn l s) : Drawn l (a.classes layout) := by
  intro c hc
  rcases mem_classes hc with rfl | ⟨s, hs, hc⟩
  · exact Or.inl rfl
  · simp only [List.cons_append, List.mem_cons, List.mem_append, Option.mem_toList] at hs
    rcases hs with rfl | hs | hs
    · exact Or.inr ⟨a.id, hid, hc⟩
    · exact Or.inr ⟨s, hclass s hs, hc⟩
    · exact hlayout s hs c hc

end

section
variable {l : List String} (hid : a.id ∈ l)
include hid

theorem spelled_button (hclass : ∀ s ∈ a.cssClass, s ∈ l) (haction : ∀ s ∈ a.action?, s ∈ l) :
    a.buttonTemplate.Spelled l := by
  have hclasses : (field (a.classes [])).Spelled l := drawn_classes hid hclass (by simp)
  unfold buttonTemplate
  cases ha : a.action? with
  | none =>
    simp only [spelled_append, spelled_cons]
    exact ⟨⟨⟨rfl, hclasses, rfl, spelled_nil⟩, spelled_nil⟩, rfl, trivial, rfl, spelled_nil⟩
  | some action =>
    have hclick : (field action).Spelled l := drawn_of_mem (haction action ha)
    simp only [spelled_append, spelled_cons]
    exact ⟨⟨⟨rfl, hclasses, rfl, spelled_nil⟩, rfl, hclick, rfl, spelled_nil⟩, rfl, trivial, rfl,
      spelled_nil⟩

theorem spelled_icon (hicon : ∀ s ∈ a.iconClass, s ∈ l) : a.iconTemplate.Spelled l := by
  have hfield : (field a.id).Spelled l := drawn_of_mem hid
  unfold iconTemplate
  cases hc : a.iconClass.filter (· ≠ "") with
  | none =>
    simp only [spelled_cons]
    exact ⟨rfl, hfield, rfl, spelled_nil⟩
  | some icon =>
    have hmem : icon ∈ l := hicon icon (Option.filter_eq_some_iff.1 hc).1
    simp only [spelled_cons]
    exact ⟨rfl, drawn_of_mem hmem, rfl, hfield, rfl, spelled_nil⟩

theorem spelled_video (hsrc : ∀ s ∈ a.src, s ∈ l) : a.videoTemplate.Spelled l := by
  have hfield : (field (a.src.getD "")).Spelled l := (drawn_of_all rfl).getD hsrc
  have hcontrols : (markup (if a.controls then " controls" else "")).Spelled l := by
    cases a.controls <;> rfl
  have hautoplay : (markup (if a.autoplay then " autoplay" else "")).Spelled l := by
    cases a.autoplay <;> rfl
  simp only [videoTemplate, spelled_cons]
  exact ⟨rfl, drawn_of_mem hid, rfl, hcontrols, hautoplay, rfl, hfield, rfl, spelled_nil⟩

theorem spelled_list : a.listTemplate.Spelled l := by
  unfold listTemplate
  cases a.listKind.getD .unordered <;>
    simp only [spelled_append, spelled_cons, spelled_flatMap] <;>
    exact ⟨⟨⟨rfl, drawn_of_mem hid, rfl, spelled_nil⟩, fun _ _ => ⟨rfl, trivial, rfl, spelled_nil⟩⟩,
      rfl, spelled_nil⟩

theorem spelled_table (d : Nat) : (a.tableTemplate d).Spelled l := by
  have hrow {element : String} (h : element.toList.all isMarkupChar) (cells : List String) :
      (rowTemplate element cells).Spelled l := by
    have hopen : (markup ("<" ++ element ++ ">")).Spelled l := by
      simpa [Segment.Spelled, isMarkupChar] using h
    have hclose : (markup ("</" ++ element ++ ">")).Spelled l := by
      simpa [Segment.Spelled, isMarkupChar] using h
    simp only [rowTemplate, spelled_append, spelled_cons, spelled_flatMap]
    exact ⟨⟨⟨rfl, spelled_nil⟩, fun _ _ => ⟨hopen, trivial, hclose, spelled_nil⟩⟩, rfl,
      spelled_nil⟩
  have hline := spelled_newline l
  simp only [tableTemplate, spelled_append, spelled_cons, spelled_flatMap]
  exact ⟨⟨⟨⟨⟨rfl, drawn_of_mem hid, rfl, hline _, rfl, hline _, spelled_nil⟩, hrow rfl _⟩,
    hline _, rfl, hline _, rfl, spelled_nil⟩, fun _ _ => ⟨hline _, hrow rfl _⟩⟩,
    hline _, rfl, hline _, rfl, spelled_nil⟩

theorem spelled_select : a.selectTemplate.Spelled l := by
  simp only [selectTemplate, spelled_append, spelled_cons, spelled_flatMap]
  exact ⟨⟨⟨rfl, drawn_of_mem hid, rfl, drawn_selectedName, rfl, spelled_nil⟩, fun _ _ =>
    ⟨rfl, trivial, rfl, trivial, rfl, spelled_nil⟩⟩, rfl, spelled_nil⟩

theorem spelled_radio (o : String) : (a.radioTemplate o).Spelled l := by
  have hfield : (field a.id).Spelled l := drawn_of_mem hid
  simp only [radioTemplate, spelled_cons]
  exact ⟨rfl, hfield, rfl, hfield, rfl, drawn_selectedName, rfl, trivial, rfl, trivial, rfl,
    spelled_nil⟩

end

theorem spelled_radioGroup (d : Nat) :
    (a.radioGroupTemplate d).Spelled (if a.options.isEmpty then [] else [a.id]) := by
  refine joined_induction spelled_nil (fun ht hu => spelled_append.2 ⟨ht, hu⟩)
    (spelled_cons.2 ⟨spelled_newline _ d, spelled_nil⟩) fun t ht => ?_
  obtain ⟨o, ho, rfl⟩ := List.mem_map.1 ht
  have hne : a.options ≠ [] := List.ne_nil_of_mem ho
  exact spelled_radio (by simp [hne]) o

/-- The template of a leaf is spelled with the fields of its component. -/
theorem spelled_of_leaf {d : Nat} {t : Template} (h : a.shape d = .leaf t) :
    t.Spelled a.verbatim := by
  have hid {l : List String} : (field a.id).Spelled (a.id :: l) := drawn_of_mem (by simp)
  have hgetD {o : Option String} {s : String} (hs : s.toList.all isMarkupChar) :
      (field (o.getD s)).Spelled (a.id :: o.toList) :=
    (drawn_of_all hs).getD fun t ht => by simp [Option.mem_def.1 ht]
  unfold shape at h
  unfold verbatim
  cases hk : a.kind <;> simp only [hk, reduceCtorEq, Shape.leaf.injEq] at h ⊢ <;> subst h
  case text =>
    simp only [paragraph, spelled_cons]
    exact ⟨rfl, hid, rfl, trivial, rfl, spelled_nil⟩
  case button => exact spelled_button (by simp) (by simp +contextual) (by simp +contextual)
  case image =>
    simp only [imageTemplate, spelled_cons]
    exact ⟨rfl, hid, rfl, hgetD rfl, rfl, trivial, rfl, spelled_nil⟩
  case icon => exact spelled_icon (by simp) (by simp +contextual)
  case link =>
    simp only [linkTemplate, spelled_cons]
    exact ⟨rfl, hid, rfl, hgetD rfl, rfl, trivial, rfl, spelled_nil⟩
  case divider | progress =>
    simp only [dividerTemplate, progressTemplate, spelled_cons]
    exact ⟨rfl, hid, rfl, spelled_nil⟩
  case video => exact spelled_video (by simp) (by simp +contextual)
  case iframe =>
    simp only [iframeTemplate, spelled_cons]
    exact ⟨rfl, hid, rfl, hgetD rfl, rfl, trivial, rfl, spelled_nil⟩
  case list => exact spelled_list (by simp)
  case table => exact spelled_table (by simp) d
  case input =>
    simp only [inputTemplate, spelled_cons]
    exact ⟨rfl, hid, rfl, hgetD rfl, rfl, trivial, rfl, drawn_modelName, rfl, spelled_nil⟩
  case textarea =>
    simp only [textareaTemplate, spelled_cons]
    exact ⟨rfl, hid, rfl, trivial, rfl, drawn_modelName, rfl, spelled_nil⟩
  case select => exact spelled_select (by simp)
  case checkbox =>
    simp only [checkboxTemplate, spelled_cons]
    exact ⟨rfl, hid, rfl, drawn_checkedName, rfl, trivial, rfl, spelled_nil⟩
  case radioGroup => exact spelled_radioGroup d
  case unknown =>
    simp only [spelled_cons]
    exact ⟨rfl, trivial, rfl, spelled_nil⟩

/-- So are the tags of a block. -/
theorem spelled_of_block {d : Nat} {element classes : String}
    (h : a.shape d = .block element classes) :
    (Template.blockStart element classes).Spelled a.verbatim ∧
      (Template.blockEnd element).Spelled a.verbatim := by
  have hclasses {l layout : List String} (hid : a.id ∈ l) (hclass : ∀ s ∈ a.cssClass, s ∈ l)
      (hlayout : ∀ s ∈ layout, Drawn l s) : (field (a.classes layout)).Spelled l :=
    drawn_classes hid hclass hlayout
  have hlayout {l : List String} {s : String} (hs : s.toList.all isMarkupChar) :
      ∀ t ∈ [s], Drawn l t := List.forall_mem_singleton.2 (drawn_of_all hs)
  unfold shape at h
  unfold verbatim
  cases hk : a.kind <;> simp only [hk, reduceCtorEq, Shape.block.injEq] at h ⊢ <;>
    obtain ⟨rfl, rfl⟩ := h <;> simp only [Template.blockStart, Template.blockEnd, spelled_cons]
  case quickStack =>
    have hdirection : ∀ t ∈ ["quick-stack", a.direction.getD "row"],
        Drawn (a.id :: a.cssClass.toList ++ a.direction.toList) t := by
      refine List.forall_mem_cons.2 ⟨drawn_of_all rfl, List.forall_mem_singleton.2 ?_⟩
      exact (drawn_of_all rfl).getD (by simp +contextual)
    exact ⟨⟨rfl, hclasses (by simp) (by simp +contextual) hdirection, rfl, spelled_nil⟩, rfl,
      spelled_nil⟩
  case vFlex | hFlex =>
    exact ⟨⟨rfl, hclasses (by simp) (by simp +contextual) (hlayout rfl), rfl, spelled_nil⟩, rfl,
      spelled_nil⟩
  all_goals
    exact ⟨⟨rfl, hclasses (by simp) (by simp +contextual) (by simp), rfl, spelled_nil⟩, rfl,
      spelled_nil⟩

end Attributes

/-! ## Pages -/

/-- A template is spelled with the fields of the components that it shows. -/
theorem pieces_spelled : Pieces fun t as => t.Spelled (as.flatMap Attributes.verbatim) where
  nil := spelled_nil
  append := by
    intro t u as bs ht hu
    rw [List.flatMap_append, spelled_append]
    exact ⟨fun s hs => (ht s hs).mono (List.subset_append_left _ _),
      fun s hs => (hu s hs).mono (List.subset_append_right _ _)⟩
  line d := spelled_cons.2 ⟨spelled_newline _ d, spelled_nil⟩
  blockStart := by
    intro a d element classes h
    rw [List.flatMap_singleton]
    exact (Attributes.spelled_of_block h).1
  blockEnd := by
    intro a d element classes h
    -- an end tag has no field, so it is spelled without any
    refine spelled_cons.2 ⟨?_, spelled_nil⟩
    exact (spelled_cons.1 (Attributes.spelled_of_block h).2).1
  leaf := by
    intro a d t h
    rw [List.flatMap_singleton]
    exact Attributes.spelled_of_leaf h

/-- **The template of a page is spelled with the fields of its components.** -/
theorem Component.spelled_pageTemplate (cs : List Component) :
    (pageTemplate cs).Spelled ((shownAll cs).flatMap Attributes.verbatim) :=
  pieces_spelled.pageTemplate cs

end Pagewright
