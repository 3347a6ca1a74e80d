/-
  Texts that differ in what the readers do not see.

  * `Page.decode`: what a value is to the reader of pages (`interprets_reader`);
  * `Form`: what is expected at a place of a text, and with it the forms of what is
    inside;
  * `Rearranged form j k`: the values `j` and `k` differ in the order of the members of
    components and pages and in members that have no known label, at any depth;
  * `Rearranged.agree`: such values are read as the same;
  * `determined_by_known_fields`: so are the texts that say them, whatever the blanks
    are; styles keep the order of their pairs, a property that is given more than once
    stands where it was first given and has the value that it was given last.
-/
import Pagewright.Page.Json
import Pagewright.Proofs.Component.Meaning

namespace Pagewright

open Json Json.Value

/-! ## Pages -/

/-- What the value of a field changes in a page. -/
def PageField.decode (depth : Nat) : PageField → Value → Option (Page → Page)
  | name => fun j => j.asString.map fun name p => { p with name }
  | components => fun j =>
    (Component.decodeList depth j).map fun components p => { p with components }

namespace Page

variable {depth : Nat}

theorem interprets_read (f : PageField) (p : Page) :
    Interprets ((record depth).read f p) fun j => (f.decode depth j).map (· p) := by
  cases f with
  | name => exact interprets_string.update (fun name p => { p with name }) p
  | components =>
    exact (Component.interprets_listReader depth).update
      (fun components p => { p with components }) p

theorem independent_decode : Record.Independent (PageField.decode depth) := by
  intro f g j k u w hu hw hne p
  cases f <;> cases g <;>
    first
    | exact absurd rfl hne
    | obtain ⟨x, -, rfl⟩ := Option.map_eq_some_iff.1 hu
      obtain ⟨y, -, rfl⟩ := Option.map_eq_some_iff.1 hw
      rfl

/-- The page that a value is, while `depth` brackets may be opened. -/
def decode : Nat → Value → Option Page
  | 0, _ => none
  | depth + 1, j => (record depth).ofValue (PageField.decode depth) j

theorem interprets_reader (depth : Nat) : Interprets (reader depth) (decode depth) := by
  cases depth with
  | zero =>
    exact Record.interprets_refused
  | succ depth =>
    exact Record.interprets_record interprets_read

/-- The list of pages that a value is. -/
def decodeAll (j : Value) : Option (List Page) := j.asList maxDepth decode

theorem interprets_pages : Interprets (readList maxDepth reader) decodeAll :=
  interprets_list fun d _ => interprets_reader d

/-- A value in the trees of the components of some pages, with the component that it is. -/
def Within (js : List Value) (ps : List Page) (k : Value) (d : Component) : Prop :=
  ∃ (i : Nat) (j : Value) (p : Page) (js' : List Value), js[i]? = some j ∧ ps[i]? = some p ∧
    Record.FieldValue PageField.label [.name, .components] .components j (.list js') ∧
    Component.WithinList js' p.components k d

/-- What is within some pages is a component by itself. -/
theorem Within.decode {js : List Value} {ps : List Page} {k : Value} {d : Component}
    (h : Within js ps k d) (hjs : decodeAll (.list js) = some ps) :
    ∃ depth, Component.decode depth k = some d := by
  obtain ⟨i, j, p, js', hvalue, hpage, hcomponents, hwithin⟩ := h
  obtain ⟨depth, -, hp⟩ := exists_of_asList hjs hvalue hpage
  cases depth with
  | zero => cases hp
  | succ depth =>
    obtain ⟨u, p', hu, rfl⟩ := Record.exists_of_ofValue independent_decode
      (by decide : [PageField.name, .components].Nodup) hp rfl hcomponents
    obtain ⟨cs, hcs, rfl⟩ := Option.map_eq_some_iff.1 hu
    exact hwithin.decode hcs

end Page

/-! ## Forms -/

/-- What is expected at a place of a text. -/
inductive Form where
  | component | components | page | pages
  /-- Anything else. -/
  | other
  deriving DecidableEq, Repr

namespace Form

/-- What is expected in a field of a component. -/
def ofComponentField : ComponentField → Form
  | .children => components
  | _ => other

/-- What is expected in a field of a page. -/
def ofPageField : PageField → Form
  | .name => other
  | .components => components

/-- What is expected in the member with a label, if it is a known one. -/
def member? : Form → String → Option Form
  | component, label => (ComponentField.all.find? (·.label == label)).map ofComponentField
  | page, label => ([PageField.name, .components].find? (·.label == label)).map ofPageField
  | _, _ => none

/-- What is expected of the element of a list with a number. -/
def element : Form → Nat → Form
  | component, i => (ComponentField.all[i]?.map ofComponentField).getD other
  | components, _ => component
  | page, i => ([PageField.name, .components][i]?.map ofPageField).getD other
  | pages, _ => page
  | other, _ => other

/-- A key that is the label of no known member. -/
def Unknown (form : Form) (q : Quoted) : Prop :=
  ∃ label, q.value? = some label ∧ form.member? label = none

/-- The values are read as the same where this form is expected. -/
def Agree : Form → Value → Value → Prop
  | component, j, k => ∀ depth, Component.decode depth j = Component.decode depth k
  | components, j, k => ∀ depth, Component.decodeList depth j = Component.decodeList depth k
  | page, j, k => ∀ depth, Page.decode depth j = Page.decode depth k
  | pages, j, k => Page.decodeAll j = Page.decodeAll k
  | other, j, k => j = k

theorem Agree.refl (form : Form) (j : Value) : form.Agree j j := by
  cases form <;> simp [Agree]

end Form

/-- Values that differ only in the order of the members of components and pages and in
    members that are not known, there and at every place inside.  `ps` are the members that both
    have, each with its two values. -/
inductive Rearranged : Form → Value → Value → Prop
  | same (form : Form) (j : Value) : Rearranged form j j
  | list (form : Form) (ps : List (Value × Value))
    (each : ∀ (i : Nat) (p : Value × Value), ps[i]? = some p →
      Rearranged (form.element i) p.1 p.2) :
    Rearranged form (.list (ps.map (·.1))) (.list (ps.map (·.2)))
  | object (form : Form) (record : form = .component ∨ form = .page)
    (ps : List (Quoted × Value × Value)) (extra extra' : List (Quoted × Value))
    {ms ns : List (Quoted × Value)}
    (left : ms.Perm (ps.map (fun p => (p.1, p.2.1)) ++ extra))
    (right : ns.Perm (ps.map (fun p => (p.1, p.2.2)) ++ extra'))
    (unknown : ∀ m ∈ extra, form.Unknown m.1) (unknown' : ∀ m ∈ extra', form.Unknown m.1)
    (each : ∀ p ∈ ps, ∀ label ∈ p.1.value?, ∀ inner ∈ form.member? label,
      Rearranged inner p.2.1 p.2.2) :
    Rearranged form (.object ms) (.object ns)

/-! ## Readers -/

/-- A record whose fields are expected to have the forms that are expected inside of `form`. -/
structure Form.Describes {φ σ : Type} (form : Form) (r : Record φ σ)
    (E : φ → Value → Option (σ → σ)) (inner : φ → Form) : Prop where
  member label : form.member? label = (r.field? label).map inner
  element i : form.element i = (r.fields[i]?.map inner).getD .other
  agree : ∀ {f j k}, (inner f).Agree j k → E f j = E f k

namespace Form.Describes

variable {φ σ : Type} [DecidableEq φ] {form : Form} {r : Record φ σ}
  {E : φ → Value → Option (σ → σ)} {inner : φ → Form}

omit [DecidableEq φ] in
theorem unknown (h : form.Describes r E inner) {q : Quoted} (hq : form.Unknown q) :
    r.Unknown q := by
  obtain ⟨label, hlabel, hnone⟩ := hq
  rw [h.member, Option.map_eq_none_iff] at hnone
  exact ⟨label, hlabel, hnone⟩

theorem object (h : form.Describes r E inner) (hE : Record.Independent E)
    {ps : List (Quoted × Value × Value)} {ms ns extra extra' : List (Quoted × Value)}
    (hms : ms.Perm (ps.map (fun p => (p.1, p.2.1)) ++ extra))
    (hns : ns.Perm (ps.map (fun p => (p.1, p.2.2)) ++ extra'))
    (hextra : ∀ m ∈ extra, form.Unknown m.1) (hextra' : ∀ m ∈ extra', form.Unknown m.1)
    (hps : ∀ p ∈ ps, ∀ label ∈ p.1.value?, ∀ inner ∈ form.member? label,
      inner.Agree p.2.1 p.2.2) :
    r.ofValue E (.object ms) = r.ofValue E (.object ns) := by
  refine Record.ofValue_object_congr hE hms hns (fun m hm => h.unknown (hextra m hm))
    (fun m hm => h.unknown (hextra' m hm)) fun p hp label hlabel f hf => ?_
  have hmember : inner f ∈ form.member? label := by
    rw [h.member, hf]
    rfl
  exact h.agree (hps p hp label hlabel (inner f) hmember)

omit [DecidableEq φ] in
theorem list (h : form.Describes r E inner) {ps : List (Value × Value)}
    (hps : ∀ (i : Nat) (p : Value × Value), ps[i]? = some p → (form.element i).Agree p.1 p.2) :
    r.acceptItems E r.fields r.blank (ps.map (·.1)) =
      r.acceptItems E r.fields r.blank (ps.map (·.2)) := by
  refine Record.acceptItems_congr (fun i p f hp hf => ?_) r.blank
  have helement : form.element i = inner f := by
    rw [h.element, hf]
    rfl
  have hagree := hps i p hp
  rw [helement] at hagree
  exact h.agree hagree

end Form.Describes

theorem Component.describes (depth : Nat) (readChildren : Reader (List Component)) :
    Form.component.Describes (Component.record depth readChildren)
      (ComponentField.decode depth (Component.decodeList depth)) Form.ofComponentField where
  member _ := rfl
  element _ := rfl
  agree {f j k} h := by
    cases f with
    | children =>
      have hlist : Component.decodeList depth j = Component.decodeList depth k := h depth
      simp only [ComponentField.decode, hlist]
    | _ => exact congrArg _ h

theorem Page.describes (depth : Nat) :
    Form.page.Describes (Page.record depth) (PageField.decode depth) Form.ofPageField where
  member _ := rfl
  element _ := rfl
  agree {f j k} h := by
    cases f with
    | name => exact congrArg _ h
    | components =>
      have hlist : Component.decodeList depth j = Component.decodeList depth k := h depth
      simp only [PageField.decode, hlist]

/-- Elements that are read as the same make the same list. -/
theorem asList_congr {α : Type} {D : Nat → Value → Option α} {ps : List (Value × Value)}
    (h : ∀ (i : Nat) (p : Value × Value), ps[i]? = some p → ∀ depth, D depth p.1 = D depth p.2)
    (depth : Nat) :
    (Value.list (ps.map (·.1))).asList depth D = (Value.list (ps.map (·.2))).asList depth D := by
  cases depth with
  | zero => rfl
  | succ depth =>
    simp only [asList]
    induction ps with
    | nil => rfl
    | cons p ps ih =>
      have hp := h 0 p rfl depth
      have hps := ih fun i => h (i + 1)
      rw [List.map_cons, List.map_cons, List.mapM_cons, List.mapM_cons, hp, hps]

/-- Lists are read as the same if their elements are. -/
theorem Form.agree_list (form : Form) {ps : List (Value × Value)}
    (h : ∀ (i : Nat) (p : Value × Value), ps[i]? = some p → (form.element i).Agree p.1 p.2) :
    form.Agree (.list (ps.map (·.1))) (.list (ps.map (·.2))) := by
  cases form with
  | component =>
    intro depth
    cases depth with
    | zero => rw [Component.decode, Component.decode]
    | succ depth =>
      rw [Component.decode, Component.decode]
      exact (Component.describes depth _).list h
  | components =>
    intro depth
    cases depth with
    | zero => rw [Component.decodeList, Component.decodeList]
    | succ depth =>
      rw [Component.decodeList, Component.decodeList]
      exact asList_congr (fun i p hp _ => h i p hp depth) (depth + 1)
  | page =>
    intro depth
    cases depth with
    | zero => rfl
    | succ depth => exact (Page.describes depth).list h
  | pages => exact asList_congr h maxDepth
  | other =>
    have heq : ps.map (·.1) = ps.map (·.2) := List.map_congr_left fun p hp => by
      obtain ⟨i, hi⟩ := List.getElem?_of_mem hp
      exact h i p hi
    exact congrArg Value.list heq

/-- **Rearranged values are read as the same**, at whatever depth they differ. -/
theorem Rearranged.agree {form : Form} {j k : Value} (h : Rearranged form j k) :
    form.Agree j k := by
  induction h with
  | same form j => exact Form.Agree.refl form j
  | list form ps _ ih => exact form.agree_list ih
  | object form record ps extra extra' left right unknown unknown' _ ih =>
    rcases record with rfl | rfl
    · intro depth
      cases depth with
      | zero => rw [Component.decode, Component.decode]
      | succ depth =>
        rw [Component.decode, Component.decode]
        exact (Component.describes depth _).object ComponentField.independent_decode left right
          unknown unknown' ih
    · intro depth
      cases depth with
      | zero => rfl
      | succ depth =>
        exact (Page.describes depth).object Page.independent_decode left right unknown unknown' ih

/-! ## Styles -/

namespace Component

/-- The styles of a component are the pairs of its value, put one after the other: a property
    stands where it is first given, and has the value that it is given last. -/
def HasStylesOf (ms : List (Quoted × Value)) (c : Component) : Prop :=
  ∀ ⦃q es⦄, (q, .object es) ∈ ms → q.value? = some ComponentField.styles.label →
    ∃ ps, es.mapM asPair = some ps ∧
      c.attrs.styles = ps.foldl (fun acc p => acc.insert p.1 p.2) Styles.empty ∧
      c.attrs.styles.entries.map (·.1) = (ps.map (·.1)).eraseDups ∧
      ∀ k, c.attrs.styles.value? k = ps.reverse.lookup k

theorem hasStylesOf {depth : Nat} {ms : List (Quoted × Value)} {c : Component}
    (h : decode depth (.object ms) = some c) : HasStylesOf ms c := by
  intro q es hm hq
  obtain ⟨ps, hps, hstyles⟩ := styles_of_decode h (.member hm hq)
  rw [hstyles]
  exact ⟨ps, hps, rfl, Styles.keys_foldl_insert ps, Styles.value?_foldl_insert ps⟩

end Component

/-! ## Texts -/

/-- A reader of whole texts takes texts for the same if they say rearranged values. -/
def Form.Determines {α : Type} (form : Form) (read : List Char → Except Fault α) : Prop :=
  ∀ ⦃j k s t⦄, Rearranged form j k → Document j s → Document k t →
    ∀ v, read s = .ok v ↔ read t = .ok v

theorem Form.Determines.of_interprets {α : Type} {form : Form} {r : Reader α}
    {D : Value → Option α} (h : Interprets r D) (hD : ∀ ⦃j k⦄, form.Agree j k → D j = D k) :
    form.Determines (readDocument r) := by
  intro j k s t hjk hs ht v
  rw [h.document hs, h.document ht, hD hjk.agree]

/-- **A text is read for its known fields.**  Neither blanks, nor the order of the members of
    components and pages, nor members that are not known change what is read, at whatever depth
    they stand; and the styles of each component are its pairs, put one after the other. -/
theorem determined_by_known_fields :
    Form.component.Determines Component.ofJson ∧
    Form.components.Determines Component.listOfJson ∧
    Form.pages.Determines Page.listOfJson ∧
    (∀ j s c, Document j s → Component.ofJson s = .ok c →
      ∀ ms d, Component.Within j c (.object ms) d → Component.HasStylesOf ms d) ∧
    (∀ js s cs, Document (.list js) s → Component.listOfJson s = .ok cs →
      ∀ ms d, Component.WithinList js cs (.object ms) d → Component.HasStylesOf ms d) ∧
    (∀ js s ps, Document (.list js) s → Page.listOfJson s = .ok ps →
      ∀ ms d, Page.Within js ps (.object ms) d → Component.HasStylesOf ms d) := by
  have hreader := Component.interprets_reader maxDepth
  have hlist := Component.interprets_listReader maxDepth
  refine ⟨.of_interprets hreader fun j k h => h maxDepth, .of_interprets hlist fun j k h =>
    h maxDepth, .of_interprets Page.interprets_pages fun j k h => h, ?_, ?_, ?_⟩
  · intro j s c hs hc ms d hwithin
    obtain ⟨_, hd⟩ := hwithin.decode ((hreader.document hs c).1 hc)
    exact Component.hasStylesOf hd
  · intro js s cs hs hcs ms d hwithin
    obtain ⟨_, hd⟩ := hwithin.decode ((hlist.document hs cs).1 hcs)
    exact Component.hasStylesOf hd
  · intro js s ps hs hps ms d hwithin
    obtain ⟨_, hd⟩ := hwithin.decode ((Page.interprets_pages.document hs ps).1 hps)
    exact Component.hasStylesOf hd

/-! ### A text in two forms -/

/-- Characters between quotes, as far as they stand for themselves. -/
def spelled (s : String) : Quoted :=
  ⟨s.toList.filterMap fun c =>
    if h : c ≠ '"' ∧ c ≠ '\\' ∧ ¬c.toNat < 0x20 then some (.plain c h) else none⟩

/-- A member with a blank wherever one may stand. -/
def spacedEntry (m : Quoted × Value) : Json.Entry :=
  let blank : Gap := ⟨[' '], List.forall_mem_singleton.2 rfl⟩
  ⟨blank, m.1, blank, m.2, ⟨blank, m.2.compact, blank⟩⟩

theorem document_spaced (ms : List (Quoted × Value)) :
    Document (.object ms)
      ('\x7b' :: (commaed true ((ms.map spacedEntry).map Json.Entry.written) ++ ['\x7d'])) := by
  have hlayout := Layout.object .none (ms.map spacedEntry)
    (List.forall_mem_map.2 fun m _ => layout_compact m.2)
  have hvalue : (ms.map spacedEntry).map Json.Entry.member = ms := by
    rw [List.map_map]
    exact List.map_id ms
  rw [hvalue] at hlayout
  exact ⟨.bare _, hlayout, by simp [Padded.written, Padded.bare, Gap.none]⟩

/-- The members of a text that is given a style twice. -/
def styledText : List (Quoted × Value) :=
  [(spelled "type", .text (spelled "text")), (spelled "id", .text (spelled "b")),
    (spelled "styles", .object [(spelled "x", .text (spelled "1")),
      (spelled "y", .text (spelled "2")), (spelled "x", .text (spelled "3"))])]

/-- The same members turned around, behind one that is not known. -/
def notedText : List (Quoted × Value) :=
  (spelled "note", .list [.list []]) :: styledText.reverse

/-- The members of a component with one child. -/
def navAround (ms : List (Quoted × Value)) : List (Quoted × Value) :=
  [(spelled "type", .text (spelled "nav")), (spelled "id", .text (spelled "a")),
    (spelled "children", .list [.object ms])]

theorem rearranged_notedText :
    Rearranged .component (.object styledText) (.object notedText) := by
  refine .object .component (Or.inl rfl) (styledText.map fun m => (m.1, m.2, m.2)) []
    [(spelled "note", .list [.list []])] (List.Perm.refl _) ?_ (List.forall_mem_nil _) ?_ ?_
  · exact ((List.reverse_perm styledText).cons _).trans
      (List.perm_append_singleton _ styledText).symm
  · exact List.forall_mem_singleton.2 ⟨"note", rfl, rfl⟩
  · exact List.forall_mem_map.2 fun m _ _ _ inner _ => .same inner m.2

theorem rearranged_navAround : Rearranged .component (.object (navAround styledText))
    (.object (navAround notedText).reverse) := by
  refine .object .component (Or.inl rfl)
    [(spelled "type", .text (spelled "nav"), .text (spelled "nav")),
      (spelled "id", .text (spelled "a"), .text (spelled "a")),
      (spelled "children", .list [.object styledText], .list [.object notedText])]
    [] [] (List.Perm.refl _) (List.reverse_perm _) (List.forall_mem_nil _) (List.forall_mem_nil _)
    ?_
  intro p hp label hlabel inner hinner
  simp only [List.mem_cons, List.not_mem_nil, or_false] at hp
  rcases hp with rfl | rfl | rfl
  · exact .same inner _
  · exact .same inner _
  · obtain rfl : "children" = label := Option.some.inj hlabel
    obtain rfl : Form.components = inner := Option.some.inj hinner
    refine .list .components [(.object styledText, .object notedText)] fun i p hp => ?_
    obtain ⟨hi, rfl⟩ := List.getElem?_eq_some_iff.1 hp
    obtain rfl : i = 0 := by simpa using hi
    exact rearranged_notedText

/-- Turned around at both levels, with blanks and with a member that is not known, the text is
    read as without, and the style that is given twice has its second value at its first place. -/
theorem determined_by_known_fields_navAround :
    let text : Component :=
      .node { kind := .text, id := "b", styles := ⟨[("x", "3"), ("y", "2")], by decide⟩ } []
    Component.ofJson
      ("\x7b \"children\" : [\x7b\"note\":[[]],\"styles\":\x7b\"x\":\"1\",\"y\":\"2\",".toList ++
        "\"x\":\"3\"\x7d,\"id\":\"b\",\"type\":\"text\"\x7d] , \"id\" : \"a\" , ".toList ++
        "\"type\" : \"nav\" \x7d".toList) =
        .ok (.node { kind := .nav, id := "a" } [text]) ∧
      Component.HasStylesOf notedText text := by
  intro text
  have hleft := document_compact (.object (navAround styledText))
  have hright := document_spaced (navAround notedText).reverse
  have htext : '\x7b' :: (commaed true
      (((navAround notedText).reverse.map spacedEntry).map Json.Entry.written) ++ ['\x7d']) =
      "\x7b \"children\" : [\x7b\"note\":[[]],\"styles\":\x7b\"x\":\"1\",\"y\":\"2\",".toList ++
        "\"x\":\"3\"\x7d,\"id\":\"b\",\"type\":\"text\"\x7d] , \"id\" : \"a\" , ".toList ++
        "\"type\" : \"nav\" \x7d".toList := by
    decide +kernel
  rw [htext] at hright
  have hread : Component.ofJson (Value.object (navAround styledText)).compact =
      .ok (.node { kind := .nav, id := "a" } [text]) := rfl
  have hother := (determined_by_known_fields.1 rearranged_navAround hleft hright _).1 hread
  refine ⟨hother, ?_⟩
  exact determined_by_known_fields.2.2.2.1 _ _ _ hright hother notedText text
    (.child (i := 0) (.member List.mem_cons_self rfl) rfl rfl (.self _ text))

end Pagewright
