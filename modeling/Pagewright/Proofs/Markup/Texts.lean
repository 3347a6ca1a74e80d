/-
  What the texts of an author can change in the markup of a page.

  * `Attributes.texts` lists the texts that a component shows, in the order in
    which they are written, and `Component.texts` those of a page; with the tags of
    unknown components they are all that an author has written in a template
    (`authored_pageTemplate`);
  * `Template.literals` is what stands between the texts of a template: a
    template is its literals with the escaped texts between them
    (`render_eq_interleave`);
  * `blank` leaves every text empty and keeps all else.  It goes through the
    rendering (`pageTemplate_blankAll`), so two pages that are the same when they
    are blank have the same literals;
  * `exists_literals`: pages that differ in their texts only are the same markup
    around their own texts.
-/
import Pagewright.Proofs.Markup.Pieces
import Pagewright.Proofs.Text.Entities

namespace Pagewright

open Template Segment

/-! ## Texts -/

/-- The segments of a template that an author has written. -/
def Template.authored (t : Template) : Template := t.filter Segment.isAuthored

/-- The text of a segment. -/
def Segment.text? : Segment → Option String
  | text s => some s
  | _ => none

/-- The texts of a template, in order. -/
def Template.texts (t : Template) : List String := t.filterMap Segment.text?

/-- The texts that a component shows, in the order in which they are written:
    an option is written as a value and as a label. -/
def Attributes.texts (a : Attributes) : List String :=
  match a.kind with
  | .text | .button | .link | .checkbox => [a.text.getD ""]
  | .input | .textarea => [a.placeholder.getD ""]
  | .image => [a.alt.getD ""]
  | .iframe => [a.title.getD ""]
  | .list => a.items
  | .table => a.headers ++ a.rows.flatten
  | .select | .radioGroup => a.options.flatMap fun o => [o, o]
  | _ => []

/-- What an author has written in a component: its texts, or an unknown tag. -/
def Attributes.authored (a : Attributes) : Template :=
  a.texts.map Segment.text ++ a.kind.unknownTag?.toList.map Segment.remark

/-- The texts that a page shows, in the order in which they are written. -/
def Component.texts (cs : List Component) : List String := (shownAll cs).flatMap Attributes.texts

namespace Template

@[simp] theorem authored_nil : authored [] = [] := rfl

@[simp] theorem texts_nil : texts [] = [] := rfl

section
variable (s : String) (t u : Template)

@[simp] theorem authored_markup : authored (markup s :: t) = t.authored := rfl

@[simp] theorem authored_field : authored (field s :: t) = t.authored := rfl

@[simp] theorem authored_text : authored (text s :: t) = text s :: t.authored := rfl

@[simp] theorem authored_remark : authored (remark s :: t) = remark s :: t.authored := rfl

@[simp] theorem authored_newline (d : Nat) : authored (newline d :: t) = t.authored := rfl

@[simp] theorem authored_append : authored (t ++ u) = t.authored ++ u.authored := by
  simp [authored]

@[simp] theorem authored_flatMap {α : Type} (f : α → Template) (xs : List α) :
    authored (xs.flatMap f) = xs.flatMap fun x => (f x).authored := by
  simp [authored, List.filter_flatMap]

@[simp] theorem texts_markup : texts (markup s :: t) = t.texts := rfl

@[simp] theorem texts_field : texts (field s :: t) = t.texts := rfl

@[simp] theorem texts_text : texts (text s :: t) = s :: t.texts := rfl

@[simp] theorem texts_remark : texts (remark s :: t) = t.texts := rfl

theorem texts_append : texts (t ++ u) = t.texts ++ u.texts := by
  simp [texts]

theorem texts_authored : texts (authored t) = t.texts := by
  induction t with
  | nil => rfl
  | cons s t ih =>
    cases s with
    | text s => exact congrArg (s :: ·) ih
    | markup s | field s | remark s => exact ih

end

theorem texts_map_text (ss : List String) : texts (ss.map text) = ss := by
  simp [texts, Function.comp_def, Segment.text?]

theorem authored_joined (d : Nat) : ∀ ts : List Template,
    authored (joined [newline d] ts) = ts.flatMap authored
  | [] => rfl
  | [t] => by simp [joined]
  | t :: u :: us => by
    have ih := authored_joined d (u :: us)
    simp [joined, ih]

end Template

namespace Attributes

variable {a : Attributes}

theorem authored_rowTemplate (element : String) (cells : List String) :
    (rowTemplate element cells).authored = cells.map Segment.text := by
  simp [rowTemplate, List.map_eq_flatMap]

/-- A leaf shows what an author has written in its component. -/
theorem authored_of_leaf {d : Nat} {t : Template} (h : a.shape d = .leaf t) :
    t.authored = a.authored := by
  unfold shape at h
  unfold Attributes.authored Attributes.texts
  cases hk : a.kind <;> simp only [hk, reduceCtorEq, Shape.leaf.injEq] at h ⊢ <;> subst h
  case button => cases ha : a.action? <;> simp [buttonTemplate, content, ha, Kind.unknownTag?]
  case icon =>
    unfold iconTemplate
    split <;> rfl
  case list => simp [listTemplate, Kind.unknownTag?, List.map_eq_flatMap]
  case table =>
    simp [tableTemplate, authored_rowTemplate, Kind.unknownTag?, List.map_flatten,
      ← List.flatMap_def]
  case select => simp [selectTemplate, Kind.unknownTag?, List.map_flatMap]
  case radioGroup =>
    rw [radioGroupTemplate, authored_joined, List.flatMap_map]
    simp [radioTemplate, Kind.unknownTag?, List.map_flatMap]
  all_goals rfl

/-- A block shows nothing that an author has written. -/
theorem authored_of_block {d : Nat} {element classes : String}
    (h : a.shape d = .block element classes) : a.authored = [] := by
  unfold shape at h
  unfold Attributes.authored Attributes.texts
  cases hk : a.kind <;> simp_all [Kind.unknownTag?]

theorem texts_authored (a : Attributes) : Template.texts a.authored = a.texts := by
  rw [Attributes.authored, texts_append, texts_map_text]
  cases a.kind.unknownTag? <;> simp [Template.texts, Segment.text?]

end Attributes

/-- What an author has written in a template belongs to the components that the
    template shows. -/
theorem pieces_authored : Pieces fun t as => t.authored = as.flatMap Attributes.authored where
  nil := rfl
  append := by
    intro t u as bs ht hu
    rw [authored_append, ht, hu, List.flatMap_append]
  line _ := rfl
  blockStart := by
    intro a d element classes h
    simp [Template.blockStart, Attributes.authored_of_block h]
  blockEnd _ := rfl
  leaf := by
    intro a d t h
    simp [Attributes.authored_of_leaf h]

namespace Component

/-- **The template of a page shows what its author has written, in order.** -/
theorem authored_pageTemplate (cs : List Component) :
    (pageTemplate cs).authored = (shownAll cs).flatMap Attributes.authored :=
  pieces_authored.pageTemplate cs

theorem texts_pageTemplate (cs : List Component) : (pageTemplate cs).texts = texts cs := by
  rw [← texts_authored, authored_pageTemplate, Template.texts, List.filterMap_flatMap, texts]
  exact congrArg List.flatten (List.map_congr_left fun a _ => a.texts_authored)

end Component

/-! ## Literals -/

/-- Literals with texts between them: a literal, a text, a literal, and so on to
    a last literal. -/
def interleave : List String → List String → String
  | [l], [] => l
  | l :: ls, t :: ts => l ++ t ++ interleave ls ts
  | _, _ => ""

namespace Template

/-- Puts a piece before the first literal. -/
def ahead (s : String) : List String → List String
  | [] => [s]
  | l :: ls => (s ++ l) :: ls

/-- What a template is written as before, between and behind its texts. -/
def literals : Template → List String
  | [] => [""]
  | .text _ :: t => "" :: literals t
  | s :: t => ahead s.render (literals t)

theorem length_literals (t : Template) : t.literals.length = t.texts.length + 1 := by
  have hahead : ∀ (s : String) {ls : List String} {n : Nat}, ls.length = n + 1 →
      (ahead s ls).length = n + 1 := by
    intro s ls n h
    cases ls with
    | nil => simp at h
    | cons l ls => exact h
  induction t with
  | nil => rfl
  | cons s t ih =>
    cases s with
    | text s => simp [literals, ih]
    | markup s | field s | remark s => exact hahead _ ih

theorem interleave_ahead (s : String) :
    ∀ {ls ts : List String}, ls.length = ts.length + 1 →
      interleave (ahead s ls) ts = s ++ interleave ls ts
  | [], ts, h => by simp at h
  | [l], [], _ => rfl
  | l :: ls, t :: ts, _ => by simp [ahead, interleave, String.append_assoc]
  | l :: l' :: ls, [], h => by simp at h

/-- A template is its literals with the escaped texts between them. -/
theorem render_eq_interleave (t : Template) :
    t.render = interleave t.literals (t.texts.map Html.escape) := by
  have hcons : ∀ (s : Segment) (t : Template), render (s :: t) = s.render ++ render t := by
    intro s t
    simp [render, String.join_cons]
  induction t with
  | nil => rfl
  | cons s t ih =>
    cases s with
    | text s => simp [hcons, ih, literals, interleave, Segment.render]
    | markup s | field s | remark s =>
      rw [hcons, ih, literals, interleave_ahead]
      · rfl
      · simp [length_literals]
      · simp

end Template

/-! ## Blank texts -/

/-- Leaves a text empty and keeps all else. -/
def Segment.blank : Segment → Segment
  | text _ => text ""
  | s => s

namespace Template

/-- A template with every text left empty. -/
def blank (t : Template) : Template := t.map Segment.blank

theorem literals_blank (t : Template) : t.blank.literals = t.literals := by
  induction t with
  | nil => rfl
  | cons s t ih =>
    rw [blank, List.map_cons]
    cases s with
    | text s => exact congrArg ("" :: ·) ih
    | markup s | field s | remark s => exact congrArg (ahead _) ih

end Template

namespace Attributes

/-- A component with every text left empty; lists and rows keep their length. -/
def blank (a : Attributes) : Attributes :=
  { a with
    text := none, placeholder := none, alt := none, title := none
    options := a.options.map fun _ => ""
    items := a.items.map fun _ => ""
    headers := a.headers.map fun _ => ""
    rows := a.rows.map fun row => row.map fun _ => "" }

end Attributes

namespace Component

mutual

/-- A tree with every text left empty. -/
def blank : Component → Component
  | node a cs => node a.blank (blankAll cs)

/-- Trees with every text left empty. -/
def blankAll : List Component → List Component
  | [] => []
  | c :: cs => blank c :: blankAll cs

end

theorem blankAll_eq_map (cs : List Component) : blankAll cs = cs.map blank := by
  induction cs with
  | nil => rfl
  | cons c cs ih => simp [blankAll, ih]

end Component

/-- A shape with every text left empty. -/
def Shape.blank : Shape → Shape
  | .block element classes => .block element classes
  | .leaf t => .leaf t.blank

namespace Template

@[simp] theorem blank_nil : blank [] = [] := rfl

@[simp] theorem blank_cons (s : Segment) (t : Template) : blank (s :: t) = s.blank :: t.blank := rfl

@[simp] theorem blank_append (t u : Template) : blank (t ++ u) = t.blank ++ u.blank := by
  simp [blank]

@[simp] theorem blank_flatMap {α : Type} (f : α → Template) (xs : List α) :
    blank (xs.flatMap f) = xs.flatMap fun x => (f x).blank := by
  simp [blank, List.map_flatMap]

/-- A template takes a line exactly if it does when it is blank. -/
theorem filter_map_blank (ts : List Template) :
    (ts.map blank).filter (!·.isEmpty) = (ts.filter (!·.isEmpty)).map blank := by
  simp [List.filter_map, Function.comp_def, blank]

theorem blank_joined (d : Nat) : ∀ ts : List Template,
    blank (joined [newline d] ts) = joined [newline d] (ts.map blank)
  | [] => rfl
  | [t] => rfl
  | t :: u :: us => by
    have ih := blank_joined d (u :: us)
    simp only [List.map_cons] at ih
    simp only [joined, List.map_cons, blank_append, ih]
    rfl

end Template

namespace Segment

variable (s : String)

@[simp] theorem blank_markup : (markup s).blank = markup s := rfl

@[simp] theorem blank_field : (field s).blank = field s := rfl

@[simp] theorem blank_text : (text s).blank = text "" := rfl

@[simp] theorem blank_remark : (remark s).blank = remark s := rfl

@[simp] theorem blank_newline (d : Nat) : (newline d).blank = newline d := rfl

@[simp] theorem blank_content (o : Option String) :
    (Attributes.content o).blank = Attributes.content none := rfl

end Segment

namespace Attributes

variable (a : Attributes)

theorem blank_rowTemplate (element : String) (cells : List String) :
    (rowTemplate element cells).blank = rowTemplate element (cells.map fun _ => "") := by
  simp only [rowTemplate, blank_append, blank_cons, blank_nil, blank_flatMap, blank_markup,
    Segment.blank_text, List.flatMap_map]

section Fields

@[simp] theorem id_blank : a.blank.id = a.id := rfl

@[simp] theorem classes_blank (layout : List String) :
    a.blank.classes layout = a.classes layout := rfl

@[simp] theorem action?_blank : a.blank.action? = a.action? := rfl

@[simp] theorem iconClass_blank : a.blank.iconClass = a.iconClass := rfl

@[simp] theorem listKind_blank : a.blank.listKind = a.listKind := rfl

@[simp] theorem selectedName_blank : a.blank.selectedName = a.selectedName := rfl

@[simp] theorem text_blank : a.blank.text = none := rfl

@[simp] theorem options_blank : a.blank.options = a.options.map fun _ => "" := rfl

@[simp] theorem items_blank : a.blank.items = a.items.map fun _ => "" := rfl

@[simp] theorem headers_blank : a.blank.headers = a.headers.map fun _ => "" := rfl

@[simp] theorem rows_blank : a.blank.rows = a.rows.map fun row => row.map fun _ => "" := rfl

end Fields

/-- The shape of a blank component is its shape, blank. -/
theorem shape_blank (d : Nat) : a.blank.shape d = (a.shape d).blank := by
  have hkind : a.blank.kind = a.kind := rfl
  unfold shape
  rw [hkind]
  cases a.kind
  case button => cases ha : a.action? <;> simp [Shape.blank, buttonTemplate, ha]
  case icon =>
    simp only [Shape.blank, iconTemplate, iconClass_blank]
    cases a.iconClass.filter (· ≠ "") <;> rfl
  case list =>
    simp only [Shape.blank, listTemplate, blank_append, blank_cons, blank_nil, blank_flatMap,
      blank_markup, blank_field, Segment.blank_text, id_blank, listKind_blank, items_blank,
      List.flatMap_map]
  case table => simp [Shape.blank, tableTemplate, blank_rowTemplate, List.flatMap_map]
  case select =>
    simp only [Shape.blank, selectTemplate, blank_append, blank_cons, blank_nil, blank_flatMap,
      blank_markup, blank_field, Segment.blank_text, id_blank, selectedName_blank, options_blank,
      List.flatMap_map]
  case radioGroup =>
    have hradio : ∀ o, (a.radioTemplate o).blank = a.blank.radioTemplate "" := fun _ => rfl
    simp [Shape.blank, radioGroupTemplate, blank_joined, hradio, Function.comp_def]
  all_goals rfl

end Attributes

namespace Component

theorem blank_blockTemplate (d : Nat) (element classes : String) (ts : List Template) :
    (blockTemplate d element classes ts).blank =
      blockTemplate d element classes (ts.map Template.blank) := by
  rw [blockTemplate_eq, blockTemplate_eq, filter_map_blank]
  generalize ts.filter (!·.isEmpty) = shown
  cases shown <;> simp [blockLines, Template.blockStart, Template.blockEnd, List.flatMap_map]

theorem templates_blankAll {d : Nat} {cs : List Component}
    (h : ∀ c ∈ cs, c.blank.template d = (c.template d).blank) :
    templates d (blankAll cs) = (templates d cs).map Template.blank := by
  rw [templates_eq_map, templates_eq_map, blankAll_eq_map, List.map_map, List.map_map]
  exact List.map_congr_left h

/-- The template of a blank component is its template, blank. -/
theorem template_blank (c : Component) : ∀ d, c.blank.template d = (c.template d).blank := by
  induction c with
  | node a cs ih =>
    intro d
    rw [blank, template, template, Attributes.shape_blank]
    cases a.shape d with
    | block element classes =>
      have hchildren := templates_blankAll fun c hc => ih c hc (d + 1)
      simp only [Shape.blank, hchildren, blank_blockTemplate]
    | leaf t => rfl

/-- The template of a blank page is its template, blank. -/
theorem pageTemplate_blankAll (cs : List Component) :
    pageTemplate (blankAll cs) = (pageTemplate cs).blank := by
  have htemplates := templates_blankAll fun c (_ : c ∈ cs) => template_blank c 0
  rw [pageTemplate, pageTemplate, htemplates, filter_map_blank, blank_joined]

end Component

/-! ## Two pages -/

/-- Of a text in pieces, what the texts between the literals do not hold is what
    the literals hold. -/
theorem filter_interleave {p : Char → Bool} :
    ∀ {ls ts : List String}, ls.length = ts.length + 1 → (∀ t ∈ ts, ∀ c ∈ t.toList, ¬p c) →
      (interleave ls ts).toList.filter p = ls.flatMap fun l => l.toList.filter p
  | [], _, hlen, _ => by simp at hlen
  | [l], [], _, _ => by simp [interleave]
  | l :: l' :: ls, [], hlen, _ => by simp at hlen
  | l :: ls, t :: ts, hlen, h => by
    have ht : t.toList.filter p = [] := List.filter_eq_nil_iff.2 (h t (by simp))
    have hlen' : ls.length = ts.length + 1 := by simpa using hlen
    have hrest := filter_interleave (p := p) hlen' fun u hu => h u (by simp [hu])
    simp [interleave, ht, hrest]

namespace Component

/-- A page is its literals with its escaped texts between them. -/
theorem renderPage_eq_interleave (cs : List Component) :
    renderPage cs = interleave (pageTemplate cs).literals ((texts cs).map Html.escape) := by
  rw [renderPage, render_eq_interleave, texts_pageTemplate]

/-- The characters of a page that no text can hold are those of its literals. -/
theorem filter_renderPage (cs : List Component) :
    (renderPage cs).toList.filter Html.isReserved =
      (pageTemplate cs).literals.flatMap fun l => l.toList.filter Html.isReserved := by
  rw [renderPage_eq_interleave]
  refine filter_interleave ?_ fun t ht c hc hreserved => ?_
  · rw [length_literals, texts_pageTemplate, List.length_map]
  · obtain ⟨s, -, rfl⟩ := List.mem_map.1 ht
    rw [Html.toList_escape] at hc
    exact Html.not_mem_escapeChars hreserved _ hc

/-- **Pages that differ in their texts only are the same markup around their own
    texts.**  The angle brackets, quotation marks, apostrophes and at signs are
    those of the markup, and behind a line feed of a text stands what stands
    there in the text. -/
theorem exists_literals (cs cs' : List Component) (h : blankAll cs = blankAll cs') :
    ∃ literals : List String,
      (literals.length = (texts cs).length + 1 ∧
        renderPage cs = interleave literals ((texts cs).map Html.escape)) ∧
      (literals.length = (texts cs').length + 1 ∧
        renderPage cs' = interleave literals ((texts cs').map Html.escape)) ∧
      (renderPage cs).toList.filter Html.isReserved =
        (renderPage cs').toList.filter Html.isReserved ∧
      ∀ u v : String, Html.escape (u ++ "\n" ++ v) = Html.escape u ++ "\n" ++ Html.escape v := by
  have hliterals : (pageTemplate cs).literals = (pageTemplate cs').literals := by
    rw [← literals_blank, ← pageTemplate_blankAll, h, pageTemplate_blankAll, literals_blank]
  refine ⟨(pageTemplate cs).literals, ⟨?_, renderPage_eq_interleave cs⟩, ⟨?_, ?_⟩, ?_, ?_⟩
  · rw [length_literals, texts_pageTemplate]
  · rw [hliterals, length_literals, texts_pageTemplate]
  · rw [hliterals, renderPage_eq_interleave]
  · rw [filter_renderPage, filter_renderPage, hliterals]
  · intro u v
    rw [Html.escape_append, Html.escape_append]
    rfl

/-- A form with plain texts. -/
def plainForm : List Component :=
  [.node { kind := .card, id := "c" }
    [.node { kind := .text, id := "t" } [],
      .node { kind := .select, id := "s", options := ["a", "b"] } [],
      .node { kind := .radioGroup, id := "r" } []]]

/-- The same form with texts that look like markup. -/
def hostileForm : List Component :=
  [.node { kind := .card, id := "c" }
    [.node { kind := .text, id := "t", text := some "</p>\n@if" } [],
      .node { kind := .select, id := "s", options := ["'\" x=\"", ""] } [],
      .node { kind := .radioGroup, id := "r" } []]]

/-- Texts that look like markup leave the markup around them as it is. -/
theorem exists_literals_hostile :
    blankAll plainForm = blankAll hostileForm ∧
    ∃ literals : List String,
      (literals.length = 6 ∧
        renderPage plainForm = interleave literals ((texts plainForm).map Html.escape)) ∧
      (literals.length = 6 ∧
        renderPage hostileForm = interleave literals ((texts hostileForm).map Html.escape)) ∧
      (renderPage plainForm).toList.filter Html.isReserved =
        (renderPage hostileForm).toList.filter Html.isReserved ∧
      ∀ u v : String, Html.escape (u ++ "\n" ++ v) = Html.escape u ++ "\n" ++ Html.escape v :=
  ⟨rfl, exists_literals plainForm hostileForm rfl⟩

end Component

end Pagewright
