/-
  What an author can have evaluated in the template of a page.

  A template language takes `@` as the beginning of a control-flow block and `{{`
  as the beginning of an interpolation.  With both kept out of the fields that
  are taken over as they stand:

  * no `@` is left in the markup of a page;
  * `{{` is in the markup exactly if it is in a text that the page shows, or in
    the tag of an unknown component: escaping keeps braces as they are
    (`doubled_escapeChars`, `doubled_fillGaps`), and behind every text stands
    markup (`Template.Sealed`), so two texts never put one brace each;
  * `renderPage_code_iff` is both; `renderPage_interpolation` is a page on which
    an author opens an interpolation.
-/
import Pagewright.Proofs.Markup.Spelling
import Pagewright.Proofs.Markup.Texts
import Pagewright.Proofs.Text.Gaps

namespace Pagewright

open Template Segment

/-! ## Escaped texts -/

namespace Html

theorem entity_brace : entity '{' = ['{'] := rfl

theorem not_mem_entity_of_ne {c : Char} (h : c ≠ '{') : '{' ∉ entity c := by
  unfold entity
  split_ifs <;> simp [h.symm]

theorem entity_ne_nil (c : Char) : entity c ≠ [] := by
  unfold entity
  split_ifs <;> simp

theorem head?_escapeChars (cs : List Char) :
    (escapeChars cs).head? = some '{' ↔ cs.head? = some '{' := by
  cases cs with
  | nil => rfl
  | cons c cs =>
    obtain ⟨d, e, he⟩ := List.exists_cons_of_ne_nil (entity_ne_nil c)
    have hd : d = '{' ↔ c = '{' := by
      constructor
      · rintro rfl
        by_contra h
        exact not_mem_entity_of_ne h (by simp [he])
      · rintro rfl
        exact (List.cons.inj he).1.symm
    rw [escapeChars_cons, he]
    simpa using hd

/-- Escaping a text keeps its braces as they are. -/
theorem doubled_escapeChars (cs : List Char) :
    ['{', '{'] <:+: escapeChars cs ↔ ['{', '{'] <:+: cs := by
  induction cs with
  | nil => rfl
  | cons c cs ih =>
    rw [escapeChars_cons]
    by_cases h : c = '{'
    · subst h
      rw [entity_brace, List.singleton_append, doubled_cons, doubled_cons, ih, head?_escapeChars]
    · rw [doubled_append_of_not_mem (not_mem_entity_of_ne h), ih, doubled_cons]
      simp [Ne.symm h]

end Html

/-! ## Sealed templates -/

namespace Segment

theorem doubled_render_text (s : String) :
    ['{', '{'] <:+: (text s).render.toList ↔ ['{', '{'] <:+: s.toList := by
  rw [render_text, Html.toList_escape, Html.doubled_escapeChars]

theorem doubled_render_remark (s : String) :
    ['{', '{'] <:+: (remark s).render.toList ↔ ['{', '{'] <:+: s.toList := by
  have hgap : ∀ next, ¬Html.needsSpace '{' next := by simp [Html.needsSpace]
  rw [render_remark, Html.toList_escapeComment, Text.doubled_fillGaps (by decide) hgap,
    Html.toList_escape, Html.doubled_escapeChars]

/-- A segment of an author holds no at sign. -/
theorem at_not_mem_render {s : Segment} (h : s.isAuthored) : '@' ∉ s.render.toList := by
  cases s with
  | markup s | field s => simp [isAuthored] at h
  | text s =>
    rw [render_text, Html.toList_escape]
    exact Html.not_mem_escapeChars (by decide) _
  | remark s =>
    rw [render_remark]
    exact Html.not_mem_escapeComment (by decide) s

end Segment

namespace Template

/-- Behind every segment of an author stands markup. -/
def Sealed : Template → Prop
  | [] => True
  | s :: t => (s.isAuthored → ∃ m t', t = markup m :: t' ∧ m ≠ "") ∧ Sealed t

variable {t u : Template}

theorem sealed_append (ht : t.Sealed) (hu : u.Sealed) : (t ++ u).Sealed := by
  induction t with
  | nil => exact hu
  | cons s t ih =>
    refine ⟨fun hs => ?_, ih ht.2⟩
    obtain ⟨m, t', rfl, hm⟩ := ht.1 hs
    exact ⟨m, t' ++ u, rfl, hm⟩

theorem sealed_flatMap {α : Type} {f : α → Template} {xs : List α}
    (h : ∀ x ∈ xs, (f x).Sealed) : Sealed (xs.flatMap f) := by
  induction xs with
  | nil => trivial
  | cons x xs ih =>
    rw [List.flatMap_cons]
    exact sealed_append (h x (by simp)) (ih fun y hy => h y (by simp [hy]))

end Template

namespace Attributes

variable {a : Attributes}

theorem sealed_rowTemplate (element : String) (cells : List String) :
    (rowTemplate element cells).Sealed := by
  refine sealed_append (sealed_append ?_ (sealed_flatMap fun cell _ => ?_)) ?_ <;>
    simp [Sealed, isAuthored]

/-- Behind every text of a leaf stands markup. -/
theorem sealed_of_leaf {d : Nat} {t : Template} (h : a.shape d = .leaf t) : t.Sealed := by
  unfold shape at h
  cases hk : a.kind <;> simp only [hk, reduceCtorEq, Shape.leaf.injEq] at h <;> subst h
  case text => simp [paragraph, Sealed, isAuthored, content]
  case button => cases ha : a.action? <;> simp [buttonTemplate, ha, Sealed, isAuthored, content]
  case image => simp [imageTemplate, Sealed, isAuthored, content]
  case icon =>
    unfold iconTemplate
    split <;> simp [Sealed, isAuthored]
  case link => simp [linkTemplate, Sealed, isAuthored, content]
  case divider => simp [dividerTemplate, Sealed, isAuthored]
  case progress => simp [progressTemplate, Sealed, isAuthored]
  case video => simp [videoTemplate, Sealed, isAuthored]
  case iframe => simp [iframeTemplate, Sealed, isAuthored, content]
  case list =>
    refine sealed_append (sealed_append ?_ (sealed_flatMap fun item _ => ?_)) ?_ <;>
      simp [Sealed, isAuthored]
  case table =>
    refine sealed_append (sealed_append (sealed_append (sealed_append ?_ (sealed_rowTemplate _ _))
      ?_) (sealed_flatMap fun row _ => ?_)) ?_
    · simp [Sealed, isAuthored, newline]
    · simp [Sealed, isAuthored, newline]
    · exact ⟨by simp [isAuthored, newline], sealed_rowTemplate _ _⟩
    · simp [Sealed, isAuthored, newline]
  case input => simp [inputTemplate, Sealed, isAuthored, content]
  case textarea => simp [textareaTemplate, Sealed, isAuthored, content]
  case select =>
    refine sealed_append (sealed_append ?_ (sealed_flatMap fun o _ => ?_)) ?_ <;>
      simp [Sealed, isAuthored]
  case checkbox => simp [checkboxTemplate, Sealed, isAuthored, content]
  case radioGroup =>
    refine joined_induction trivial sealed_append (by simp [Sealed, isAuthored, newline]) ?_
    intro t ht
    obtain ⟨o, -, rfl⟩ := List.mem_map.1 ht
    simp [radioTemplate, Sealed, isAuthored]
  case unknown => simp [Sealed, isAuthored]

end Attributes

/-- Behind every text of a page stands markup. -/
theorem pieces_sealed : Pieces fun t _ => t.Sealed where
  nil := trivial
  append := sealed_append
  line _ := by simp [Sealed, isAuthored, newline]
  blockStart _ := by simp [Template.blockStart, Sealed, isAuthored]
  blockEnd _ := by simp [Template.blockEnd, Sealed, isAuthored]
  leaf := Attributes.sealed_of_leaf

/-! ## Interpolations -/

/-- Without braces in its markup and fields, a sealed template holds two braces
    exactly if a segment of an author does. -/
theorem Template.doubled_render {t : Template} (h : t.Sealed)
    (hbrace : ∀ s ∈ t, s.isAuthored = false → '{' ∉ s.render.toList) :
    ['{', '{'] <:+: t.render.toList ↔ ∃ s ∈ t.authored, ['{', '{'] <:+: s.render.toList := by
  rw [toList_render]
  induction t with
  | nil => simp
  | cons s t ih =>
    have hrest := ih h.2 fun u hu => hbrace u (by simp [hu])
    rw [List.flatMap_cons]
    cases hs : s.isAuthored with
    | false =>
      have hskip : authored (s :: t) = authored t := List.filter_cons_of_neg (by simp [hs])
      rw [doubled_append_of_not_mem (hbrace s (by simp) hs), hrest, hskip]
    | true =>
      have hkeep : authored (s :: t) = s :: authored t := List.filter_cons_of_pos hs
      obtain ⟨m, t', rfl, hm⟩ := h.1 hs
      -- the markup behind the segment is not empty and begins with no brace
      have hmarkup : '{' ∉ m.toList := hbrace (markup m) (by simp) rfl
      obtain ⟨c, cs, hc⟩ := List.exists_cons_of_ne_nil (mt String.toList_eq_nil_iff.1 hm)
      rw [hc] at hmarkup
      have hhead : (List.flatMap (fun s => s.render.toList) (markup m :: t')).head? ≠ some '{' := by
        rw [List.flatMap_cons, render_markup, hc, List.cons_append, List.head?_cons]
        rintro ⟨⟩
        exact hmarkup List.mem_cons_self
      rw [doubled_append hhead, hrest, hkeep]
      simp

/-- A component opens an interpolation exactly if one of its texts or its unknown
    tag does. -/
theorem Attributes.doubled_authored (a : Attributes) :
    (∃ s ∈ a.authored, ['{', '{'] <:+: s.render.toList) ↔
      ∃ s ∈ a.texts ++ a.kind.unknownTag?.toList, ['{', '{'] <:+: s.toList := by
  simp only [Attributes.authored, List.mem_append, or_and_right, exists_or, List.mem_map,
    exists_exists_and_eq_and, doubled_render_text, doubled_render_remark]

namespace Component

/-- **A page holds no at sign, and opens an interpolation exactly if a text that it
    shows or an unknown tag does**, when the fields that are taken over as they
    stand hold neither braces nor at signs. -/
theorem renderPage_code_iff (cs : List Component)
    (h : ∀ a ∈ shownAll cs, ∀ s ∈ a.verbatim, '{' ∉ s.toList ∧ '@' ∉ s.toList) :
    '@' ∉ (renderPage cs).toList ∧
      (['{', '{'] <:+: (renderPage cs).toList ↔
        ∃ a ∈ shownAll cs, ∃ s ∈ a.texts ++ a.kind.unknownTag?.toList,
          ['{', '{'] <:+: s.toList) := by
  have hspelled := spelled_pageTemplate cs
  have hfields : ∀ s ∈ (shownAll cs).flatMap Attributes.verbatim,
      '{' ∉ s.toList ∧ '@' ∉ s.toList := List.forall_mem_flatMap.2 h
  constructor
  · rw [renderPage, toList_render]
    intro hat
    obtain ⟨s, hs, hat⟩ := List.mem_flatMap.1 hat
    cases hauthor : s.isAuthored with
    | true => exact at_not_mem_render hauthor hat
    | false =>
      exact (hspelled s hs).not_mem hauthor (by decide) (fun v hv => (hfields v hv).2) hat
  · have hbrace : ∀ s ∈ pageTemplate cs, s.isAuthored = false → '{' ∉ s.render.toList :=
      fun s hs hauthor =>
        (hspelled s hs).not_mem hauthor (by decide) fun v hv => (hfields v hv).1
    rw [renderPage, Template.doubled_render (pieces_sealed.pageTemplate cs) hbrace,
      authored_pageTemplate]
    simp only [← Attributes.doubled_authored, List.mem_flatMap]
    constructor
    · rintro ⟨s, ⟨a, ha, hs⟩, hd⟩
      exact ⟨a, ha, s, hs, hd⟩
    · rintro ⟨a, ha, s, hs, hd⟩
      exact ⟨s, ⟨a, ha, hs⟩, hd⟩

/-- A card around a text with an at sign and braces on their own, and a component
    of an unknown kind with two braces in its tag. -/
def bracedCard : List Component :=
  [.node { kind := .card, id := "c" }
    [.node { kind := .text, id := "t", text := some "\x7b me@home \x7d\x7b" } [],
      .node { kind := .unknown "x\x7b\x7b--", id := "u" } []]]

/-- The card opens an interpolation because the tag does. -/
theorem renderPage_code_bracedCard :
    (∀ a ∈ shownAll bracedCard, ∀ s ∈ a.verbatim, '{' ∉ s.toList ∧ '@' ∉ s.toList) ∧
      '@' ∉ (renderPage bracedCard).toList ∧ ['{', '{'] <:+: (renderPage bracedCard).toList := by
  have h : ∀ a ∈ shownAll bracedCard, ∀ s ∈ a.verbatim, '{' ∉ s.toList ∧ '@' ∉ s.toList := by
    decide
  obtain ⟨hat, hcode⟩ := renderPage_code_iff bracedCard h
  have htag : ['{', '{'] <:+: "x\x7b\x7b--".toList := ⟨['x'], ['-', '-'], rfl⟩
  refine ⟨h, hat, hcode.2 ⟨{ kind := .unknown "x\x7b\x7b--", id := "u" }, ?_, _, ?_, htag⟩⟩
  · decide
  · decide

/-- A paragraph whose text is an interpolation. -/
def secretParagraph : List Component :=
  [.node { kind := .text, id := "t", text := some "\x7b\x7b secret \x7d\x7d" } []]

/-- **A text can be read as template code**: it is written as it stands, and opens
    an interpolation. -/
theorem renderPage_interpolation :
    (∀ a ∈ shownAll secretParagraph, ∀ s ∈ a.verbatim, '{' ∉ s.toList ∧ '@' ∉ s.toList) ∧
      renderPage secretParagraph = "<p class=\"t\">\x7b\x7b secret \x7d\x7d</p>" ∧
      ['{', '{'] <:+: (renderPage secretParagraph).toList := by
  have hpage : renderPage secretParagraph = "<p class=\"t\">\x7b\x7b secret \x7d\x7d</p>" := by
    rw [← String.toList_inj, renderPage, toList_render]
    rfl
  refine ⟨by decide, hpage, ?_⟩
  rw [hpage]
  exact ⟨"<p class=\"t\">".toList, " secret \x7d\x7d</p>".toList, rfl⟩

end Component

end Pagewright
