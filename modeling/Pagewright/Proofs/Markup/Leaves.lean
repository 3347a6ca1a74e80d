/-
  How the templates of single components are read.

  * `Attributes.Unquoted`: no field that an attribute takes over as it stands
    holds a quotation mark;
  * one lemma for each kind of component without children: its template is read
    as the nodes of its outline;
  * `Attributes.fits`: shape and outline of a component belong together, for
    all kinds.
-/
import Pagewright.Proofs.Markup.Forest
import Pagewright.Proofs.Markup.Reading

namespace Pagewright

open Text Template Segment Markup

/-! ## Segments -/

@[simp] theorem Segment.render_markup (s : String) : (markup s).render = s := rfl

@[simp] theorem Segment.render_field (s : String) : (field s).render = s := rfl

@[simp] theorem Segment.render_text (s : String) : (text s).render = Html.escape s := rfl

@[simp] theorem Segment.render_remark (s : String) : (remark s).render = Html.escapeComment s :=
  rfl

namespace Template

@[simp] theorem toList_render_nil : (render []).toList = [] := rfl

@[simp] theorem toList_render_cons (s : Segment) (t : Template) :
    (render (s :: t)).toList = s.render.toList ++ (render t).toList := by
  simp [toList_render]

@[simp] theorem toList_render_append (t u : Template) :
    (render (t ++ u)).toList = (render t).toList ++ (render u).toList := by
  simp [toList_render]

theorem toList_render_flatMap {α : Type} (f : α → Template) (xs : List α) :
    (render (xs.flatMap f)).toList = xs.flatMap fun x => (render (f x)).toList := by
  simp [toList_render, List.flatMap_assoc]

end Template

/-! ## Lines -/

theorem toList_render_newline (d : Nat) :
    (newline d).render.toList = '\n' :: List.replicate (2 * d) ' ' := by
  simp [newline]

/-- The beginning of a line is blank. -/
theorem isSpace_newline (d : Nat) : ∀ c ∈ (newline d).render.toList, isSpace c := by
  rw [toList_render_newline]
  intro c hc
  rcases List.mem_cons.1 hc with rfl | hc
  · decide
  · rw [(List.mem_replicate.1 hc).2]
    decide

/-- Templates on lines of their own are read one after the other. -/
theorem reads_joined {α : Type} {f : α → Template} {g : α → List Node} {d : Nat} :
    ∀ {xs : List α}, xs ≠ [] → (∀ x ∈ xs, Reads true (f x).render.toList (g x)) →
      Reads true (joined [newline d] (xs.map f)).render.toList (xs.flatMap g)
  | [], hne, _ => absurd rfl hne
  | [x], _, h => by simpa [joined] using h x (by simp)
  | x :: y :: xs, _, h => by
    have hrest := reads_joined (d := d) (List.cons_ne_nil y xs) fun z hz => h z (by simp [hz])
    have h' := (h x (by simp)).append (hrest.indent (isSpace_newline d))
    simpa [joined] using h'

/-! ## Attributes -/

namespace Markup

theorem not_mem_escape (s : String) : '"' ∉ (Html.escape s).toList := by
  rw [Html.toList_escape]
  exact Html.not_mem_escapeChars (by decide) _

end Markup

namespace Markup.RawAttr

/-- An attribute without a value. -/
def bare (name : String) (hn : isName isAttrChar name) : RawAttr := ⟨name, none, by simp, hn⟩

/-- Whether a text is the name of an attribute with a value of the program. -/
def isPlainName (s : String) : Bool := isName isAttrChar s && !isAuthored s

/-- Whether a text is the name of an attribute with a text of the author. -/
def isAuthoredName (s : String) : Bool := isName isAttrChar s && isAuthored s

/-- An attribute with a value that is taken over as it stands. -/
def verbatim (name : String) (hn : isPlainName name)
    (value : String) (hv : '"' ∉ value.toList) : RawAttr :=
  ⟨name, some value, by simpa using hv, (Bool.and_eq_true_iff.1 hn).1⟩

/-- An attribute with a text of the author. -/
def escaped (name : String) (hn : isAuthoredName name) (s : String) :
    RawAttr :=
  ⟨name, some (Html.escape s), by simpa using not_mem_escape s, (Bool.and_eq_true_iff.1 hn).1⟩

/-- The value of an option: a text of the author between apostrophes. -/
def optionValue (o : String) : RawAttr where
  name := "[value]"
  value := some ("'" ++ Html.escape o ++ "'")
  no_quote := by
    have h := not_mem_escape o
    simpa using h
  named := rfl

section
variable {name value : String}

@[simp] theorem written_bare {hn : isName isAttrChar name} :
    (bare name hn).written = ' ' :: name.toList := by
  simp [bare, written]

@[simp] theorem toAttr_bare {hn : isName isAttrChar name} : (bare name hn).toAttr = ⟨name, none⟩ :=
  rfl

@[simp] theorem written_verbatim {hn : isPlainName name}
    {hv : '"' ∉ value.toList} :
    (verbatim name hn value hv).written =
      ' ' :: name.toList ++ ['=', '"'] ++ value.toList ++ ['"'] := by
  simp [verbatim, written]

@[simp] theorem toAttr_verbatim {hn : isPlainName name}
    {hv : '"' ∉ value.toList} : (verbatim name hn value hv).toAttr = attr name value := by
  have hplain : isAuthored name = false := by simpa using (Bool.and_eq_true_iff.1 hn).2
  simp [verbatim, toAttr, Attr.ofRaw, attr, hplain]

@[simp] theorem written_escaped {hn : isAuthoredName name} :
    (escaped name hn value).written =
      ' ' :: name.toList ++ ['=', '"'] ++ (Html.escape value).toList ++ ['"'] := by
  simp [escaped, written]

@[simp] theorem toAttr_escaped {hn : isAuthoredName name} :
    (escaped name hn value).toAttr = attr name value := by
  have hauthored : isAuthored name = true := (Bool.and_eq_true_iff.1 hn).2
  simp [escaped, toAttr, Attr.ofRaw, attr, hauthored, Html.decode_escape]

end

@[simp] theorem written_optionValue (o : String) :
    (optionValue o).written = " [value]=\"'".toList ++ (Html.escape o).toList ++ "'\"".toList := by
  simp [optionValue, written]

@[simp] theorem toAttr_optionValue (o : String) :
    (optionValue o).toAttr = attr "[value]" ("'" ++ o ++ "'") := by
  have hname : isAuthored "[value]" = true := by decide
  simp only [optionValue, toAttr, Attr.ofRaw, attr, hname, Html.decode_quoted, if_true]

end Markup.RawAttr

namespace Attributes

variable {a : Attributes}

/-! ## Values without a quotation mark -/

/-- The characters of an identifier are letters, digits and underscores. -/
theorem isIdentifierChar_of_mem {c : Char} {s : String} (h : c ∈ (Script.identifier s).toList) :
    Script.isIdentifierChar c := by
  rw [Script.identifier, String.toList_ofList, List.mem_map] at h
  obtain ⟨d, -, hd⟩ := h
  split_ifs at hd with hid
  · exact hd ▸ hid
  · exact hd ▸ rfl

/-- So are those of the name of a class member. -/
theorem isIdentifierChar_of_mem_append {c : Char} {s suffix : String}
    (hs : suffix.toList.all Script.isIdentifierChar)
    (h : c ∈ (Script.identifier s ++ suffix).toList) : Script.isIdentifierChar c := by
  rw [String.toList_append, List.mem_append] at h
  exact h.elim isIdentifierChar_of_mem (List.all_eq_true.1 hs c)

theorem isIdentifierChar_of_mem_modelName {c : Char} (h : c ∈ a.modelName.toList) :
    Script.isIdentifierChar c :=
  isIdentifierChar_of_mem_append (by decide) h

theorem isIdentifierChar_of_mem_selectedName {c : Char} (h : c ∈ a.selectedName.toList) :
    Script.isIdentifierChar c :=
  isIdentifierChar_of_mem_append (by decide) h

theorem isIdentifierChar_of_mem_checkedName {c : Char} (h : c ∈ a.checkedName.toList) :
    Script.isIdentifierChar c :=
  isIdentifierChar_of_mem_append (by decide) h

theorem not_mem_modelName : '"' ∉ a.modelName.toList := fun h =>
  absurd (isIdentifierChar_of_mem_modelName h) (by decide)

theorem not_mem_selectedName : '"' ∉ a.selectedName.toList := fun h =>
  absurd (isIdentifierChar_of_mem_selectedName h) (by decide)

theorem not_mem_checkedName : '"' ∉ a.checkedName.toList := fun h =>
  absurd (isIdentifierChar_of_mem_checkedName h) (by decide)

theorem mem_of_mem_trim {c : Char} {s : String} (h : c ∈ (trim s).toList) : c ∈ s.toList := by
  rw [trim, String.toList_ofList, trimChars, List.mem_reverse] at h
  have h := (List.dropWhile_sublist _).subset h
  exact (List.dropWhile_sublist _).subset (List.mem_reverse.1 h)

theorem mem_intercalate {c : Char} {separator : String} {l : List String}
    (h : c ∈ (separator.intercalate l).toList) :
    c ∈ separator.toList ∨ ∃ s ∈ l, c ∈ s.toList := by
  induction l with
  | nil => simp at h
  | cons s l ih =>
    cases l with
    | nil => exact Or.inr ⟨s, by simp, by simpa using h⟩
    | cons t l =>
      rw [String.intercalate_cons_cons, String.toList_append, String.toList_append,
        List.mem_append, List.mem_append] at h
      rcases h with (h | h) | h
      · exact Or.inr ⟨s, by simp, h⟩
      · exact Or.inl h
      · rcases ih h with h | ⟨u, hu, h⟩
        · exact Or.inl h
        · exact Or.inr ⟨u, by simp [hu], h⟩

/-- The characters of the style classes are those of the id, of the layout and of
    the own classes, and the space between them. -/
theorem mem_classes {c : Char} {layout : List String} (h : c ∈ (a.classes layout).toList) :
    c = ' ' ∨ ∃ s ∈ a.id :: a.cssClass.toList ++ layout, c ∈ s.toList := by
  rcases mem_intercalate h with h | ⟨s, hs, h⟩
  · left
    simpa using h
  · right
    simp only [List.mem_append, List.mem_singleton] at hs
    rcases hs with (rfl | hs) | hs
    · exact ⟨a.id, by simp, h⟩
    · exact ⟨s, by simp [hs], h⟩
    · split_ifs at hs with hown
      · simp at hs
      · rw [List.mem_singleton.1 hs] at h
        have hmem := mem_of_mem_trim h
        cases hclass : a.cssClass with
        | none => simp [hclass] at hmem
        | some own =>
          rw [hclass] at hmem
          exact ⟨own, by simp, hmem⟩

theorem not_mem_classes {layout : List String} (hid : '"' ∉ a.id.toList)
    (hclass : ∀ s ∈ a.cssClass, '"' ∉ s.toList) (hlayout : ∀ s ∈ layout, '"' ∉ s.toList) :
    '"' ∉ (a.classes layout).toList := by
  intro h
  rcases mem_classes h with h | ⟨s, hs, h⟩
  · exact absurd h (by decide)
  · simp only [List.cons_append, List.mem_cons, List.mem_append, Option.mem_toList] at hs
    rcases hs with rfl | hs | hs
    · exact hid h
    · exact hclass s hs h
    · exact hlayout s hs h

theorem not_mem_getD {c : Char} {o : Option String} {s : String} (ho : ∀ t ∈ o, c ∉ t.toList)
    (hs : c ∉ s.toList) : c ∉ (o.getD s).toList := by
  cases o with
  | none => exact hs
  | some t => exact ho t rfl

/-! ## One element -/

/-- The attribute that every element of a component has. -/
def rawClass (hid : '"' ∉ a.id.toList) : RawAttr := .verbatim "class" (by decide) a.id hid

section
variable (hid : '"' ∉ a.id.toList)
include hid

theorem reads_paragraph :
    Reads true a.paragraph.render.toList [textElement "p" [a.idClass] (a.text.getD "")] := by
  have h := reads_textElement ⟨"p", rfl⟩ [rawClass hid] (a.text.getD "") rfl
  simpa [paragraph, content, startText, endText, textElement, idClass, rawClass] using h

theorem reads_divider :
    Reads true a.dividerTemplate.render.toList [.element "hr" [a.idClass] []] := by
  have h := reads_selfClosing ⟨"hr", rfl⟩ [rawClass hid]
  simpa [dividerTemplate, startText, idClass, rawClass] using h

theorem reads_progress :
    Reads true a.progressTemplate.render.toList [.element "progress" [a.idClass] []] := by
  have h := reads_emptyElement ⟨"progress", rfl⟩ [rawClass hid] rfl
  simpa [progressTemplate, startText, endText, idClass, rawClass] using h

theorem reads_image (hsrc : ∀ s ∈ a.src, '"' ∉ s.toList) :
    Reads true a.imageTemplate.render.toList
      [.element "img" [a.idClass, attr "src" (a.src.getD ""), attr "alt" (a.alt.getD "")] []] := by
  have h := reads_selfClosing ⟨"img", rfl⟩
    [rawClass hid, .verbatim "src" (by decide) (a.src.getD "") (not_mem_getD hsrc (by simp)),
      .escaped "alt" (by decide) (a.alt.getD "")]
  simpa [imageTemplate, content, startText, idClass, rawClass] using h

theorem reads_link (hhref : ∀ s ∈ a.href, '"' ∉ s.toList) :
    Reads true a.linkTemplate.render.toList
      [textElement "a" [a.idClass, attr "href" (a.href.getD ""), attr "target" "_blank"]
        (a.text.getD "")] := by
  have h := reads_textElement ⟨"a", rfl⟩
    [rawClass hid, .verbatim "href" (by decide) (a.href.getD "") (not_mem_getD hhref (by simp)),
      .verbatim "target" (by decide) "_blank" (by decide)] (a.text.getD "") rfl
  simpa [linkTemplate, content, startText, endText, textElement, idClass, rawClass] using h

theorem reads_iframe (hsrc : ∀ s ∈ a.src, '"' ∉ s.toList) :
    Reads true a.iframeTemplate.render.toList
      [.element "iframe"
        [a.idClass, attr "src" (a.src.getD ""), attr "title" (a.title.getD "")] []] := by
  have h := reads_emptyElement ⟨"iframe", rfl⟩
    [rawClass hid, .verbatim "src" (by decide) (a.src.getD "") (not_mem_getD hsrc (by simp)),
      .escaped "title" (by decide) (a.title.getD "")] rfl
  simpa [iframeTemplate, content, startText, endText, idClass, rawClass] using h

theorem reads_input (htype : ∀ s ∈ a.inputType, '"' ∉ s.toList) :
    Reads true a.inputTemplate.render.toList
      [.element "input" [a.idClass, attr "type" (a.inputType.getD "text"),
        attr "placeholder" (a.placeholder.getD ""), attr "[(ngModel)]" a.modelName] []] := by
  have h := reads_selfClosing ⟨"input", rfl⟩
    [rawClass hid,
      .verbatim "type" (by decide) (a.inputType.getD "text") (not_mem_getD htype (by decide)),
      .escaped "placeholder" (by decide) (a.placeholder.getD ""),
      .verbatim "[(ngModel)]" (by decide) a.modelName not_mem_modelName]
  simpa [inputTemplate, content, startText, idClass, rawClass] using h

theorem reads_textarea :
    Reads true a.textareaTemplate.render.toList
      [.element "textarea" [a.idClass, attr "placeholder" (a.placeholder.getD ""),
        attr "[(ngModel)]" a.modelName] []] := by
  have h := reads_emptyElement ⟨"textarea", rfl⟩
    [rawClass hid, .escaped "placeholder" (by decide) (a.placeholder.getD ""),
      .verbatim "[(ngModel)]" (by decide) a.modelName not_mem_modelName] rfl
  simpa [textareaTemplate, content, startText, endText, idClass, rawClass] using h

theorem reads_button (hclass : ∀ s ∈ a.cssClass, '"' ∉ s.toList)
    (haction : ∀ s ∈ a.action?, '"' ∉ s.toList) :
    Reads true a.buttonTemplate.render.toList
      [textElement "button"
        (attr "class" (a.classes []) :: (a.action?.map (attr "(click)")).toList)
        (a.text.getD "")] := by
  have hcs : '"' ∉ (a.classes []).toList := not_mem_classes hid hclass (by simp)
  cases hact : a.action? with
  | none =>
    have h := reads_textElement ⟨"button", rfl⟩ [.verbatim "class" (by decide) (a.classes []) hcs]
      (a.text.getD "") rfl
    simpa [buttonTemplate, hact, content, startText, endText, textElement] using h
  | some action =>
    have h := reads_textElement ⟨"button", rfl⟩
      [.verbatim "class" (by decide) (a.classes []) hcs,
        .verbatim "(click)" (by decide) action (haction action hact)]
      (a.text.getD "") rfl
    simpa [buttonTemplate, hact, content, startText, endText, textElement] using h

theorem reads_icon (hicon : ∀ s ∈ a.iconClass, '"' ∉ s.toList) :
    Reads true a.iconTemplate.render.toList
      [.element "i"
        [match a.iconClass.filter (· ≠ "") with
          | some icon => attr "class" (icon ++ " " ++ a.id)
          | none => a.idClass] []] := by
  unfold iconTemplate
  cases h : a.iconClass.filter (· ≠ "") with
  | none =>
    have h := reads_emptyElement ⟨"i", rfl⟩ [rawClass hid] rfl
    simpa [startText, endText, idClass, rawClass] using h
  | some icon =>
    have hq : '"' ∉ icon.toList := hicon icon (Option.filter_eq_some_iff.1 h).1
    have h := reads_emptyElement ⟨"i", rfl⟩
      [.verbatim "class" (by decide) (icon ++ " " ++ a.id) (by simp [hq, hid])] rfl
    simpa [startText, endText] using h

/-! ## Elements with parts -/

theorem reads_video (hsrc : ∀ s ∈ a.src, '"' ∉ s.toList) :
    Reads true a.videoTemplate.render.toList
      [.element "video"
        (a.idClass :: ((if a.controls then [⟨"controls", none⟩] else []) ++
          if a.autoplay then [⟨"autoplay", none⟩] else []))
        [.element "source" [attr "src" (a.src.getD ""), attr "type" "video/mp4"] []]] := by
  have hsource := reads_selfClosing ⟨"source", rfl⟩
    [.verbatim "src" (by decide) (a.src.getD "") (not_mem_getD hsrc (by simp)),
      .verbatim "type" (by decide) "video/mp4" (by decide)] false
  have h := hsource.body.element ⟨"video", rfl⟩
    (rawClass hid :: ((if a.controls then [.bare "controls" (by decide)] else []) ++
      if a.autoplay then [.bare "autoplay" (by decide)] else [])) rfl
  cases hc : a.controls <;> cases hp : a.autoplay <;>
    simpa [videoTemplate, hc, hp, startText, endText, idClass, rawClass] using h

theorem reads_list :
    Reads true a.listTemplate.render.toList
      [.element (match a.listKind with | some .ordered => "ol" | _ => "ul") [a.idClass]
        (a.items.map (textElement "li" []))] := by
  have hitem : ∀ item ∈ a.items,
      Reads false
        (startText ⟨"li", rfl⟩ [] ++ ['>'] ++ (Html.escape item).toList ++ endText ⟨"li", rfl⟩)
        [textElement "li" [] item] := fun item _ =>
    reads_textElement ⟨"li", rfl⟩ [] item rfl false
  have key : ∀ tag : TagName, isBlock tag.text = false →
      Reads true
        (render ([markup ("<" ++ tag.text ++ " class=\""), field a.id, markup "\">"] ++
          a.items.flatMap (fun item => [markup "<li>", .text item, markup "</li>"]) ++
          [markup ("</" ++ tag.text ++ ">")])).toList
        [.element tag.text [a.idClass] (a.items.map (textElement "li" []))] := by
    intro tag hb
    have h := (fills_elements hitem).element tag [rawClass hid] hb
    simpa [startText, endText, toList_render_flatMap, idClass, rawClass] using h
  unfold listTemplate
  rcases a.listKind with _ | _ | _
  · exact key ⟨"ul", rfl⟩ rfl
  · exact key ⟨"ol", rfl⟩ rfl
  · exact key ⟨"ul", rfl⟩ rfl

theorem reads_select :
    Reads true a.selectTemplate.render.toList
      [.element "select" [a.idClass, attr "[(ngModel)]" a.selectedName]
        (a.options.map fun o => textElement "option" [attr "[value]" ("'" ++ o ++ "'")] o)] := by
  have hoption : ∀ o ∈ a.options,
      Reads false
        (startText ⟨"option", rfl⟩ [.optionValue o] ++ ['>'] ++ (Html.escape o).toList ++
          endText ⟨"option", rfl⟩)
        [textElement "option" [attr "[value]" ("'" ++ o ++ "'")] o] := by
    intro o _
    have h := reads_textElement ⟨"option", rfl⟩ [.optionValue o] o rfl false
    simpa [textElement] using h
  have h := (fills_elements hoption).element ⟨"select", rfl⟩
    [rawClass hid, .verbatim "[(ngModel)]" (by decide) a.selectedName not_mem_selectedName] rfl
  simpa [selectTemplate, startText, endText, toList_render_flatMap, idClass, rawClass] using h

theorem reads_checkbox :
    Reads true a.checkboxTemplate.render.toList
      [.element "label" [a.idClass]
        [.element "input" [attr "type" "checkbox", attr "[(ngModel)]" a.checkedName] [],
          .text (" " ++ a.text.getD "")]] := by
  have hbox := reads_selfClosing ⟨"input", rfl⟩
    [.verbatim "type" (by decide) "checkbox" (by decide),
      .verbatim "[(ngModel)]" (by decide) a.checkedName not_mem_checkedName] false
  have h := (hbox.fills (fills_space_escape (a.text.getD ""))).element ⟨"label", rfl⟩
    [rawClass hid] rfl
  simpa [checkboxTemplate, content, startText, endText, idClass, rawClass] using h

theorem reads_radio (o : String) :
    Reads true (a.radioTemplate o).render.toList [a.radioNode o] := by
  have hbutton := reads_selfClosing ⟨"input", rfl⟩
    [.verbatim "type" (by decide) "radio" (by decide), .verbatim "name" (by decide) a.id hid,
      .verbatim "[(ngModel)]" (by decide) a.selectedName not_mem_selectedName, .optionValue o] false
  have h := (hbutton.fills (fills_space_escape o)).element ⟨"label", rfl⟩ [rawClass hid] rfl
  simpa [radioTemplate, radioNode, startText, endText, idClass, rawClass] using h

end

/-! ## Tables -/

theorem reads_row (tag : TagName) (hb : isBlock tag.text = false) (cells : List String) :
    Reads true (rowTemplate tag.text cells).render.toList [row tag.text cells] := by
  have hcell : ∀ cell ∈ cells,
      Reads false (startText tag [] ++ ['>'] ++ (Html.escape cell).toList ++ endText tag)
        [textElement tag.text [] cell] := fun cell _ => reads_textElement tag [] cell hb false
  have h := (fills_elements hcell).element ⟨"tr", rfl⟩ [] rfl
  simpa [rowTemplate, row, startText, endText, toList_render_flatMap] using h

theorem reads_table (hid : '"' ∉ a.id.toList) (d : Nat) :
    Reads true (a.tableTemplate d).render.toList [a.tableNode] := by
  have hheaders := reads_row ⟨"th", rfl⟩ rfl a.headers
  have hrows : ∀ r ∈ a.rows, Reads true
      ((newline (d + 2)).render.toList ++ (rowTemplate "td" r).render.toList) [row "td" r] :=
    fun r _ => (reads_row ⟨"td", rfl⟩ rfl r).indent (isSpace_newline _)
  have hhead := ((hheaders.indent (isSpace_newline (d + 2))).fills
    (fills_blank (isSpace_newline (d + 1)))).element ⟨"thead", rfl⟩ [] rfl
  have hbody :=
    ((fills_blank (isSpace_newline (d + 1))).prepend hrows).element ⟨"tbody", rfl⟩ [] rfl
  have h := ((hhead.indent (isSpace_newline (d + 1))).fills
    ((hbody.indent (isSpace_newline (d + 1))).fills (fills_blank (isSpace_newline d)))).element
      ⟨"table", rfl⟩ [rawClass hid] rfl
  simpa [tableTemplate, tableNode, startText, endText, toList_render_flatMap, idClass, rawClass,
    ← List.map_eq_flatMap] using h

/-! ## Comments -/

theorem reads_remark (tag : String) :
    Reads true
      (render [markup "<!-- Unknown component: ", remark tag, markup " -->"]).toList
      [.comment (" Unknown component: " ++ Html.escapeComment tag ++ " ")] := by
  have hgt : '>' ∉ (" Unknown component: " ++ Html.escapeComment tag ++ " ").toList := by
    simpa using Html.not_mem_escapeComment (by decide) tag
  have h := reads_comment hgt true
  rw [String.ofList_toList] at h
  simpa using h

/-! ## All kinds -/

end Attributes

/-- A template shows nodes: what is read of it are these nodes, and there are
    none if it is empty. -/
def Template.Shows (t : Template) (ns : List Node) : Prop :=
  (t = [] → ns = []) ∧ (t ≠ [] → Reads true t.render.toList ns)

theorem Markup.Reads.shows {t : Template} {ns : List Node} (h : Reads true t.render.toList ns) :
    t.Shows ns := by
  refine ⟨?_, fun _ => h⟩
  rintro rfl
  -- a blank before nothing would have to be gone without a tag that ends it
  obtain ⟨us, hrun, -⟩ := h [' '] (Or.inr ⟨rfl, by simp [isSpace]⟩)
  have := congrArg Scanner.mode (hrun [])
  simp at this

/-- The fields that attributes take over as they stand hold no quotation mark. -/
def Attributes.Unquoted (a : Attributes) : Prop := ∀ s ∈ a.verbatim, '"' ∉ s.toList

/-- A shape belongs to an outline: the same element around the children, or a
    template that shows the nodes. -/
def Shape.Fits : Shape → Outline → Prop
  | .block element classes, .around tag classes' =>
    (∃ t : TagName, t.text = tag) ∧ isBlock tag = true ∧ element = tag ∧ classes = classes' ∧
      '"' ∉ classes.toList
  | .leaf t, .nodes ns => t.Shows ns
  | _, _ => False

namespace Attributes

variable {a : Attributes}

theorem shows_radioGroup (h : a.options ≠ [] → '"' ∉ a.id.toList) (d : Nat) :
    (a.radioGroupTemplate d).Shows (a.options.map a.radioNode) := by
  by_cases ho : a.options = []
  · simp [radioGroupTemplate, ho, joined, Shows]
  · have hr := reads_joined (d := d) ho fun o _ => reads_radio (h ho) o
    rw [← List.map_eq_flatMap] at hr
    exact hr.shows

theorem fits_block (tag : TagName) {layout : List String} (hid : '"' ∉ a.id.toList)
    (hclass : ∀ s ∈ a.cssClass, '"' ∉ s.toList) (hl : ∀ s ∈ layout, '"' ∉ s.toList)
    (hb : isBlock tag.text = true) :
    (Shape.block tag.text (a.classes layout)).Fits (.around tag.text (a.classes layout)) :=
  ⟨⟨tag, rfl⟩, hb, rfl, rfl, not_mem_classes hid hclass hl⟩

/-- **Shape and outline of a component belong together.** -/
theorem fits (h : a.Unquoted) (d : Nat) : (a.shape d).Fits a.outline := by
  unfold Unquoted verbatim at h
  unfold shape outline
  cases hk : a.kind <;>
    simp only [hk, List.forall_mem_cons, List.forall_mem_append, List.cons_append,
      Option.mem_toList, List.not_mem_nil, false_imp_iff, implies_true, and_true] at h ⊢
  case container | card | grid | formGroup | tabs | accordion =>
    exact fits_block ⟨"div", rfl⟩ h.1 h.2 (by simp) rfl
  case section_ => exact fits_block ⟨"section", rfl⟩ h.1 h.2 (by simp) rfl
  case nav => exact fits_block ⟨"nav", rfl⟩ h.1 h.2 (by simp) rfl
  case pageSlot => exact fits_block ⟨"ng-container", rfl⟩ h.1 h.2 (by simp) rfl
  case vFlex => exact fits_block ⟨"div", rfl⟩ h.1 h.2 (by simp) rfl
  case hFlex => exact fits_block ⟨"div", rfl⟩ h.1 h.2 (by simp) rfl
  case quickStack =>
    refine fits_block ⟨"div", rfl⟩ h.1 h.2.1 ?_ rfl
    simpa using not_mem_getD h.2.2 (by decide)
  case text => exact (reads_paragraph h).shows
  case button => exact (reads_button h.1 h.2.1 h.2.2).shows
  case image => exact (reads_image h.1 h.2).shows
  case icon => exact (reads_icon h.1 h.2).shows
  case link => exact (reads_link h.1 h.2).shows
  case divider => exact (reads_divider h).shows
  case progress => exact (reads_progress h).shows
  case video => exact (reads_video h.1 h.2).shows
  case iframe => exact (reads_iframe h.1 h.2).shows
  case list => exact (reads_list h).shows
  case table => exact (reads_table h d).shows
  case input => exact (reads_input h.1 h.2).shows
  case textarea => exact (reads_textarea h).shows
  case select => exact (reads_select h).shows
  case checkbox => exact (reads_checkbox h).shows
  case radioGroup =>
    refine shows_radioGroup (fun ho => h a.id ?_) d
    rw [if_neg (by simpa using ho)]
    exact List.mem_singleton_self _
  case unknown tag => exact (reads_remark tag).shows

end Attributes

end Pagewright
