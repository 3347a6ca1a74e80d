/-
  What components are read from values.

  * `ComponentField.decode`: what the value of a field changes in a component; each
    field changes its own (`independent_decode`);
  * `Component.decode`, `decodeList`: what a value is to the readers of components
    (`interprets_reader`, `interprets_listReader`);
  * `Within`, `WithinList`: a value in the tree of a component, or of one of a list, with
    the component that it is, at whatever depth (`Within.decode`);
  * `styles_of_decode`: styles are the pairs of their value, put one after the other.
-/
import Pagewright.Proofs.Component.Fields
import Pagewright.Proofs.Json.Members

namespace Pagewright

open Json Json.Value

/-! ## Fields -/

/-- What a value changes in the attributes of a component. -/
def Component.decodeAttribute {α : Type} (D : Value → Option α) (set : Attributes → α → Attributes)
    (j : Value) : Option (Component → Component) :=
  (D j).map fun x c => c.modify (set · x)

/-- What the value of a field changes in a component; `decodeChildren` is what values are as
    lists of components. -/
def ComponentField.decode (depth : Nat) (decodeChildren : Value → Option (List Component)) :
    ComponentField → Value → Option (Component → Component)
  | kind => Component.decodeAttribute asString fun a s => { a with kind := Kind.ofTag s }
  | id => Component.decodeAttribute asString fun a s => { a with id := s }
  | cssClass => Component.decodeAttribute (asOption asString) fun a v => { a with cssClass := v }
  | text => Component.decodeAttribute (asOption asString) fun a v => { a with text := v }
  | placeholder =>
    Component.decodeAttribute (asOption asString) fun a v => { a with placeholder := v }
  | src => Component.decodeAttribute (asOption asString) fun a v => { a with src := v }
  | alt => Component.decodeAttribute (asOption asString) fun a v => { a with alt := v }
  | href => Component.decodeAttribute (asOption asString) fun a v => { a with href := v }
  | title => Component.decodeAttribute (asOption asString) fun a v => { a with title := v }
  | iconClass => Component.decodeAttribute (asOption asString) fun a v => { a with iconClass := v }
  | action => Component.decodeAttribute (asOption asString) fun a v => { a with action := v }
  | inputType => Component.decodeAttribute (asOption asString) fun a v => { a with inputType := v }
  | listKind =>
    Component.decodeAttribute
      (asOption (asVariant depth
        [(ListKind.ordered.word, .ordered), (ListKind.unordered.word, .unordered)]))
      fun a v => { a with listKind := v }
  | direction => Component.decodeAttribute (asOption asString) fun a v => { a with direction := v }
  | columns => Component.decodeAttribute (asOption asUInt32) fun a v => { a with columns := v }
  | styles =>
    Component.decodeAttribute (asMap depth Styles.empty Styles.insert)
      fun a v => { a with styles := v }
  | options =>
    Component.decodeAttribute (asList depth fun _ => asString) fun a v => { a with options := v }
  | items =>
    Component.decodeAttribute (asList depth fun _ => asString) fun a v => { a with items := v }
  | headers =>
    Component.decodeAttribute (asList depth fun _ => asString) fun a v => { a with headers := v }
  | rows =>
    Component.decodeAttribute (asList depth fun depth => asList depth fun _ => asString)
      fun a v => { a with rows := v }
  | controls => Component.decodeAttribute asBool fun a v => { a with controls := v }
  | autoplay => Component.decodeAttribute asBool fun a v => { a with autoplay := v }
  | children => fun j => (decodeChildren j).map fun cs c => .node c.attrs cs

namespace ComponentField

variable {depth : Nat} {decodeChildren : Value → Option (List Component)}

theorem interprets_strings (depth : Nat) :
    Interprets (readStrings depth) (asList depth fun _ => asString) :=
  interprets_list fun _ _ => interprets_string

/-- A field that is kept with the attributes is read as its value is. -/
theorem interprets_attribute {α : Type} {r : Reader α} {D : Value → Option α}
    (h : Interprets r D) {set : Attributes → α → Attributes} {f : ComponentField}
    {readChildren : Reader (List Component)}
    (hread : f.read depth readChildren = Component.readAttribute r set)
    (hdecode : f.decode depth decodeChildren = Component.decodeAttribute D set) (c : Component) :
    Interprets (f.read depth readChildren c) fun j =>
      (f.decode depth decodeChildren j).map (· c) := by
  rw [hread, hdecode]
  exact h.update (fun x c => c.modify (set · x)) c

theorem interprets_read {readChildren : Reader (List Component)}
    (h : Interprets readChildren decodeChildren) (f : ComponentField) (c : Component) :
    Interprets (f.read depth readChildren c) fun j =>
      (f.decode depth decodeChildren j).map (· c) := by
  cases f with
  | kind | id => exact interprets_attribute interprets_string rfl rfl c
  | cssClass | text | placeholder | src | alt | href | title | iconClass | action | inputType
  | direction => exact interprets_attribute (interprets_option interprets_string) rfl rfl c
  | listKind =>
    exact interprets_attribute (interprets_option (interprets_variant depth _)) rfl rfl c
  | columns => exact interprets_attribute (interprets_option interprets_uint32) rfl rfl c
  | styles => exact interprets_attribute (interprets_map depth _) rfl rfl c
  | options | items | headers => exact interprets_attribute (interprets_strings depth) rfl rfl c
  | rows =>
    exact interprets_attribute (interprets_list fun d _ => interprets_strings d) rfl rfl c
  | controls | autoplay => exact interprets_attribute interprets_bool rfl rfl c
  | children => exact h.update (fun cs c => .node c.attrs cs) c

/-- The value of a field puts this field, and nothing else. -/
theorem eq_put_of_decode {f : ComponentField} {j : Value} {u : Component → Component}
    (h : f.decode depth decodeChildren j = some u) (c : Component) :
    u c = put (u (.node {} [])) f c := by
  cases f <;>
    · obtain ⟨x, -, rfl⟩ := Option.map_eq_some_iff.1 h
      cases c
      rfl

/-- In the value `j` of a component a field has the value `k`. -/
def ValueOf (f : ComponentField) (j k : Value) : Prop := Record.FieldValue label all f j k

theorem independent_decode : Record.Independent (decode depth decodeChildren) := by
  intro f g j k u w hu hw hne c
  rw [eq_put_of_decode hw c, eq_put_of_decode hu (put _ g c), eq_put_of_decode hu c,
    eq_put_of_decode hw (put _ f c), put_comm _ _ c hne]

end ComponentField

/-! ## Components -/

namespace Component

mutual

/-- The component that a value is, while `depth` brackets may be opened. -/
def decode : Nat → Value → Option Component
  | 0, _ => none
  | depth + 1, j =>
    (record depth (listReader depth)).ofValue (ComponentField.decode depth (decodeList depth)) j

/-- The list of components that a value is, while `depth` brackets may be opened. -/
def decodeList : Nat → Value → Option (List Component)
  | 0, _ => none
  | depth + 1, j => j.asList (depth + 1) fun _ => decode depth

end

theorem interprets_readers (depth : Nat) :
    Interprets (reader depth) (decode depth) ∧
      Interprets (listReader depth) (decodeList depth) := by
  induction depth with
  | zero =>
    have hnone : decode 0 = fun _ => none := by
      funext j
      rw [decode]
    have hlist : decodeList 0 = Value.asList 0 fun _ _ => (none : Option Component) := by
      funext j
      rw [decodeList]
      cases j <;> rfl
    rw [reader, listReader, hnone, hlist]
    exact ⟨Record.interprets_refused, interprets_list nofun⟩
  | succ depth ih =>
    have hrecord : decode (depth + 1) = (record depth (listReader depth)).ofValue
        (ComponentField.decode depth (decodeList depth)) := by
      funext j
      rw [decode]
    have hlist : decodeList (depth + 1) = Value.asList (depth + 1) fun _ => decode depth := by
      funext j
      rw [decodeList]
    rw [reader, listReader, hrecord, hlist]
    exact ⟨Record.interprets_record (ComponentField.interprets_read ih.2),
      interprets_list fun _ _ => ih.1⟩

theorem interprets_reader (depth : Nat) : Interprets (reader depth) (decode depth) :=
  (interprets_readers depth).1

theorem interprets_listReader (depth : Nat) : Interprets (listReader depth) (decodeList depth) :=
  (interprets_readers depth).2

/-! ## Places -/

/-- `Within j c k d`: in the tree of the value `j`, which is the component `c`, the value `k` is
    the component `d` at the same place.  Each of the components around it may be an object or
    a list. -/
inductive Within : Value → Component → Value → Component → Prop
  | self (j : Value) (c : Component) : Within j c j c
  | child {l j k : Value} {js : List Value} {i : Nat} {b c d : Component}
    (children : ComponentField.children.ValueOf l (.list js)) (value : js[i]? = some j)
    (component : b.children[i]? = some c) (within : Within j c k d) : Within l b k d

/-- A value in the trees of a list of components, with the component that it is. -/
def WithinList (js : List Value) (cs : List Component) (k : Value) (d : Component) : Prop :=
  ∃ (i : Nat) (j : Value) (c : Component), js[i]? = some j ∧ cs[i]? = some c ∧ Within j c k d

/-- Each element of a list of components is a component by itself. -/
theorem exists_of_decodeList {depth : Nat} {js : List Value} {cs : List Component}
    (h : decodeList depth (.list js) = some cs) {i : Nat} {j : Value} {c : Component}
    (hj : js[i]? = some j) (hc : cs[i]? = some c) : ∃ depth, decode depth j = some c := by
  cases depth with
  | zero =>
    rw [decodeList] at h
    cases h
  | succ depth =>
    rw [decodeList] at h
    obtain ⟨-, -, hdecode⟩ := exists_of_asList h hj hc
    exact ⟨depth, hdecode⟩

theorem field?_label (depth : Nat) (readChildren : Reader (List Component)) (f : ComponentField) :
    (record depth readChildren).field? f.label = some f := by
  cases f <;> rfl

/-- The value of each field is in the component. -/
theorem exists_of_decode {depth : Nat} {j k : Value} {c : Component} (h : decode depth j = some c)
    {f : ComponentField} (hk : f.ValueOf j k) :
    ∃ d u c', depth = d + 1 ∧ f.decode d (decodeList d) k = some u ∧ c = u c' := by
  cases depth with
  | zero =>
    rw [decode] at h
    cases h
  | succ depth =>
    rw [decode] at h
    obtain ⟨u, c', hu, hc⟩ := Record.exists_of_ofValue ComponentField.independent_decode
      (by decide : ComponentField.all.Nodup) h (field?_label depth (listReader depth) f) hk
    exact ⟨depth, u, c', rfl, hu, hc⟩

/-- What is within a component is a component by itself. -/
theorem Within.decode {j k : Value} {c d : Component} (h : Within j c k d) {depth : Nat}
    (hj : Component.decode depth j = some c) : ∃ depth, Component.decode depth k = some d := by
  induction h generalizing depth with
  | self j c => exact ⟨depth, hj⟩
  | child children value component _ ih =>
    obtain ⟨depth, u, b', -, hu, rfl⟩ := exists_of_decode hj children
    obtain ⟨cs, hcs, rfl⟩ := Option.map_eq_some_iff.1 hu
    obtain ⟨depth, hc⟩ := exists_of_decodeList hcs value component
    exact ih hc

theorem WithinList.decode {js : List Value} {cs : List Component} {k : Value} {d : Component}
    (h : WithinList js cs k d) {depth : Nat} (hjs : decodeList depth (.list js) = some cs) :
    ∃ depth, Component.decode depth k = some d := by
  obtain ⟨i, j, c, hvalue, hcomponent, hwithin⟩ := h
  obtain ⟨depth, hc⟩ := exists_of_decodeList hjs hvalue hcomponent
  exact hwithin.decode hc

/-- The styles of a component are the pairs of its value, put one after the other. -/
theorem styles_of_decode {depth : Nat} {j : Value} {es : List (Quoted × Value)} {c : Component}
    (h : decode depth j = some c) (hes : ComponentField.styles.ValueOf j (.object es)) :
    ∃ ps, es.mapM asPair = some ps ∧
      c.attrs.styles = ps.foldl (fun acc p => acc.insert p.1 p.2) Styles.empty := by
  obtain ⟨depth, u, c', -, hu, rfl⟩ := exists_of_decode h hes
  obtain ⟨s, hs, rfl⟩ := Option.map_eq_some_iff.1 hu
  cases depth with
  | zero => cases hs
  | succ depth =>
    rw [asMap] at hs
    obtain ⟨ps, hps, rfl⟩ := Option.map_eq_some_iff.1 hs
    refine ⟨ps, hps, ?_⟩
    cases c'
    rfl

end Component

end Pagewright
