/-
  Components are read back as they are written.

  * `Tagged`: a tree whose kinds all have tags, and so are read back;
  * `ComponentField.fieldLaw`: each field is read as it is written, by the law of
    its values;
  * `lawful_reader`: components and lists of them, along the depth.
-/
import Pagewright.Proofs.Component.Fields
import Pagewright.Proofs.Component.Induction
import Pagewright.Proofs.Json.Lawful

namespace Pagewright

open Json

/-! ## Trees that are read back -/

/-- A kind that some tag stands for. -/
def Kind.Tagged (k : Kind) : Prop := ∃ t, k = ofTag t

theorem Kind.tagged_iff {k : Kind} : k.Tagged ↔ ofTag k.tag = k := by
  constructor
  · rintro ⟨t, rfl⟩
    rw [tag_ofTag]
  · intro h
    exact ⟨k.tag, h.symm⟩

namespace Component

/-- A tree whose kinds all have tags. -/
def Tagged (c : Component) : Prop := ∀ a ∈ c.preorder, a.kind.Tagged

theorem tagged_iff {c : Component} :
    c.Tagged ↔ c.attrs.kind.Tagged ∧ ∀ child ∈ c.children, child.Tagged := by
  obtain ⟨a, cs⟩ := c
  simp only [Tagged, preorder, preorderAll_eq_flatMap, List.forall_mem_cons, List.mem_flatMap,
    attrs, children]
  constructor
  · rintro ⟨ha, hcs⟩
    exact ⟨ha, fun child hchild b hb => hcs b ⟨child, hchild, hb⟩⟩
  · rintro ⟨ha, hcs⟩
    refine ⟨ha, ?_⟩
    rintro b ⟨child, hchild, hb⟩
    exact hcs child hchild b hb

theorem begins_write (c : Component) : Begins c.write := by
  rw [ComponentField.write_eq]
  exact begins_writeObject _

end Component

namespace ComponentField

theorem closed_map {α : Type} {write : α → String} (h : ∀ x, Closed (write x)) (o : Option α) :
    ∀ w ∈ o.map write, Closed w := by
  intro w hw
  obtain ⟨x, -, rfl⟩ := Option.map_eq_some_iff.1 hw
  exact h x

/-- Every field of a component closes what it opens, when its children do. -/
theorem closed_written {c : Component} (h : ∀ child ∈ c.children, Closed child.write)
    (f : ComponentField) : ∀ w ∈ f.written c, Closed w := by
  obtain ⟨a, cs⟩ := c
  cases f with
  | kind | id =>
    rintro _ ⟨⟩
    exact closed_writeString _
  | cssClass | text | placeholder | src | alt | href | title | iconClass | action | inputType
  | direction => exact closed_map closed_writeString _
  | listKind => exact closed_map (fun k => closed_writeString (ListKind.word k)) _
  | columns => exact closed_map (fun n => closed_toString (UInt32.toNat n)) _
  | styles =>
    intro w hw
    obtain rfl := eq_of_mem_unless hw
    exact closed_writeObject (List.forall_mem_map.2 fun p _ => closed_writeString p.2)
  | options | items | headers =>
    intro w hw
    obtain rfl := eq_of_mem_writtenTexts hw
    exact closed_writeStrings _
  | rows =>
    intro w hw
    obtain rfl := eq_of_mem_unless hw
    exact closed_writeList (List.forall_mem_map.2 fun ss _ => closed_writeStrings ss)
  | controls | autoplay =>
    intro w hw
    obtain rfl := eq_of_mem_writtenFlag hw
    exact closed_writeBool _
  | children =>
    intro w hw
    obtain rfl := eq_of_mem_unless hw
    exact closed_writeList (List.forall_mem_map.2 h)

/-! ## Fields -/

/-- What a field must be to be read back: the kind has a tag, and so have all kinds below. -/
def Ok (c : Component) : ComponentField → Prop
  | kind => c.attrs.kind.Tagged
  | children => ∀ child ∈ c.children, child.Tagged
  | _ => True

variable {α β : Type} {depth : Nat} {readChildren : Reader (List Component)} {f : ComponentField}

/-- A kind, which is read from its tag. -/
theorem valueLaw_kind (depth : Nat) :
    ValueLaw depth readString Kind.ofTag (fun k => some (writeString k.tag)) Kind.Tagged where
  reads k hk w hw _ := by
    obtain rfl := Option.some.inj hw
    exact ⟨k.tag, Kind.tagged_iff.1 hk, reads_string k.tag⟩
  yields _ t _ _ := by
    refine ⟨⟨t, rfl⟩, fun w hw => ?_⟩
    obtain rfl := Option.some.inj hw
    exact (nests_writeString _).nesting_eq ▸ Nat.zero_le depth

theorem valueLaw_text (depth : Nat) :
    ValueLaw depth (readOption readString) (fun o => o) (fun o => o.map writeString)
      fun _ => True :=
  .option (lawful_string depth) begins_writeString

theorem valueLaw_strings (depth : Nat) :
    ValueLaw depth (readStrings depth) (fun ss => ss) writtenTexts fun _ => True :=
  .of_lawful (lawful_strings depth) fun _ _ => eq_of_mem_writtenTexts

theorem valueLaw_flag (depth : Nat) :
    ValueLaw depth readBool (fun b => b) writtenFlag fun _ => True :=
  .of_lawful (lawful_bool depth) fun _ _ => eq_of_mem_writtenFlag

theorem valueLaw_listKind (depth : Nat) :
    ValueLaw depth (readOption (readVariant depth
        [(ListKind.ordered.word, .ordered), (ListKind.unordered.word, .unordered)]))
      (fun o => o) (fun o => o.map fun k : ListKind => writeString k.word) fun _ => True :=
  .option (lawful_variant depth fun k => by cases k <;> rfl) fun k => begins_writeString k.word

theorem valueLaw_columns (depth : Nat) :
    ValueLaw depth (readOption readUInt32) (fun o => o)
      (fun o => o.map fun n : UInt32 => toString n.toNat) fun _ => True :=
  .option (lawful_uint32 depth) fun n => begins_toString n.toNat

theorem valueLaw_rows (depth : Nat) :
    ValueLaw depth (readList depth readStrings) (fun rows => rows)
      (fun rows => if rows.isEmpty then none else some (writeList (rows.map writeStrings)))
      fun _ => True := by
  have h : Lawful depth (readList depth readStrings) (fun rows => writeList (rows.map writeStrings))
      fun rows => ∀ ss ∈ rows, True :=
    lawful_list (fun _ => begins_writeList _) closed_writeStrings fun d _ => lawful_strings d
  exact .of_lawful (h.congr fun rows => by simp) fun _ _ => eq_of_mem_unless

theorem valueLaw_styles (depth : Nat) :
    ValueLaw depth (readMap depth Styles.empty Styles.insert) (fun s => s)
      (fun s => if s.isEmpty then none
        else some (writeObject (s.entries.map fun p => (p.1, writeString p.2)))) fun _ => True :=
  .of_lawful (lawful_map Styles.foldl_insert_entries) fun _ _ => eq_of_mem_unless

/-- A field of the attributes.  For each of them the equations hold by computation. -/
theorem attributeLaw {r : Reader β} {decode : β → α} {written : α → Option String}
    {ok : α → Prop} (h : ValueLaw depth r decode written ok) (get : Attributes → α)
    (set : Attributes → α → Attributes)
    (hread : f.read depth readChildren =
      Component.readAttribute r (fun a y => set a (decode y)) := by rfl)
    (hwritten : ∀ a cs, f.written (.node a cs) = written (get a) := by intro _ _; rfl)
    (hput : ∀ c v, put c f v = v.modify (set · (get c.attrs)) := by intro _ _; rfl)
    (hget : ∀ a x, get (set a x) = x := by intro _ _; rfl)
    (hok : ∀ c, Ok c f ↔ ok (get c.attrs) := by intro _; rfl) :
    FieldLaw depth (f.read depth readChildren) (fun c => f.written c) (put · f) (Ok · f) := by
  refine h.field (fun c => get c.attrs) (fun v x => v.modify (set · x)) ?_ ?_ hput ?_ hok
  · intro v s
    rw [hread]
    rfl
  · rintro ⟨a, cs⟩
    exact hwritten a cs
  · rintro ⟨a, cs⟩ x
    exact hget a x

/-- Every field is read as it is written, if the children are. -/
theorem fieldLaw (h : Lawful depth readChildren Component.writeAll fun cs => ∀ c ∈ cs, c.Tagged) :
    ∀ f : ComponentField,
      FieldLaw depth (f.read depth readChildren) (fun c => f.written c) (put · f) (Ok · f)
  | kind => attributeLaw (valueLaw_kind depth) (·.kind) fun a x => { a with kind := x }
  | id => attributeLaw (.always (lawful_string depth)) (·.id) fun a x => { a with id := x }
  | cssClass => attributeLaw (valueLaw_text depth) (·.cssClass) fun a x => { a with cssClass := x }
  | text => attributeLaw (valueLaw_text depth) (·.text) fun a x => { a with text := x }
  | placeholder =>
    attributeLaw (valueLaw_text depth) (·.placeholder) fun a x => { a with placeholder := x }
  | src => attributeLaw (valueLaw_text depth) (·.src) fun a x => { a with src := x }
  | alt => attributeLaw (valueLaw_text depth) (·.alt) fun a x => { a with alt := x }
  | href => attributeLaw (valueLaw_text depth) (·.href) fun a x => { a with href := x }
  | title => attributeLaw (valueLaw_text depth) (·.title) fun a x => { a with title := x }
  | iconClass =>
    attributeLaw (valueLaw_text depth) (·.iconClass) fun a x => { a with iconClass := x }
  | action => attributeLaw (valueLaw_text depth) (·.action) fun a x => { a with action := x }
  | inputType =>
    attributeLaw (valueLaw_text depth) (·.inputType) fun a x => { a with inputType := x }
  | listKind =>
    attributeLaw (valueLaw_listKind depth) (·.listKind) fun a x => { a with listKind := x }
  | direction =>
    attributeLaw (valueLaw_text depth) (·.direction) fun a x => { a with direction := x }
  | columns => attributeLaw (valueLaw_columns depth) (·.columns) fun a x => { a with columns := x }
  | styles => attributeLaw (valueLaw_styles depth) (·.styles) fun a x => { a with styles := x }
  | options => attributeLaw (valueLaw_strings depth) (·.options) fun a x => { a with options := x }
  | items => attributeLaw (valueLaw_strings depth) (·.items) fun a x => { a with items := x }
  | headers => attributeLaw (valueLaw_strings depth) (·.headers) fun a x => { a with headers := x }
  | rows => attributeLaw (valueLaw_rows depth) (·.rows) fun a x => { a with rows := x }
  | controls => attributeLaw (valueLaw_flag depth) (·.controls) fun a x => { a with controls := x }
  | autoplay => attributeLaw (valueLaw_flag depth) (·.autoplay) fun a x => { a with autoplay := x }
  | children => by
    have hvalue : ValueLaw depth readChildren (fun cs => cs)
        (fun cs => if cs.isEmpty then none else some (Component.writeAll cs))
        fun cs => ∀ c ∈ cs, c.Tagged := .of_lawful h fun _ _ => eq_of_mem_unless
    refine hvalue.field Component.children (fun v cs => .node v.attrs cs) (fun v s => rfl) ?_
      (fun c v => rfl) (fun v cs => rfl) fun c => Iff.rfl
    rintro ⟨a, cs⟩
    rfl

theorem nodup_all : all.Nodup := by decide

theorem mem_all (f : ComponentField) : f ∈ all := by
  cases f <;> decide

theorem put_other (c v : Component) {f g : ComponentField} (h : g ≠ f) :
    g.written (put c f v) = g.written v ∧ (Ok (put c f v) g ↔ Ok v g) := by
  obtain ⟨a, cs⟩ := v
  cases g <;> cases f <;> first | exact absurd rfl h | exact ⟨rfl, Iff.rfl⟩

end ComponentField

/-! ## Trees -/

namespace Component

open ComponentField (written put Ok)

theorem closed_members {c : Component} (h : ∀ child ∈ c.children, Closed child.write) :
    ∀ m ∈ ComponentField.all.filterMap fun f => (f.written c).map fun v => (f.label, v),
      Closed m.2 := by
  intro m hm
  obtain ⟨f, -, hf⟩ := List.mem_filterMap.1 hm
  obtain ⟨w, hw, rfl⟩ := Option.map_eq_some_iff.1 hf
  exact ComponentField.closed_written h f w hw

theorem closed_write (c : Component) : Closed c.write := by
  induction c with
  | node a cs ih =>
    rw [ComponentField.write_eq]
    exact closed_writeObject (closed_members (c := .node a cs) ih)

theorem nesting_write_pos (c : Component) : 0 < nesting c.write := by
  rw [ComponentField.write_eq]
  exact nesting_writeObject_pos (closed_members fun child _ => closed_write child)

theorem write_record (c : Component) :
    (record depth readChildren).write (fun f => f.written c) = c.write := by
  rw [ComponentField.write_eq, Record.write, Record.given, List.map_filterMap]
  simp only [Option.map_map, Function.comp_def]
  rfl

theorem forall_ok_iff {c : Component} : (∀ f, Ok c f) ↔ c.Tagged := by
  rw [tagged_iff]
  constructor
  · intro h
    exact ⟨h .kind, h .children⟩
  · rintro ⟨hkind, hchildren⟩ f
    cases f with
    | kind => exact hkind
    | children => exact hchildren
    | _ => trivial

theorem law (h : Lawful depth readChildren writeAll fun cs => ∀ c ∈ cs, c.Tagged) :
    (record depth readChildren).Law depth (fun c f => f.written c) put Ok where
  nodup := ComponentField.nodup_all
  mem := ComponentField.mem_all
  label f := by cases f <;> rfl
  required c f hf := by
    obtain ⟨a, cs⟩ := c
    cases f <;> first | rfl | cases hf
  closed c f := ComponentField.closed_written (fun child _ => closed_write child) f
  put_comm c f g v hne := ComponentField.put_comm c c v hne
  foldl_put := ComponentField.foldl_put_all
  put_blank c f := ComponentField.put_blank
  blank f hf := by
    refine ⟨?_, ?_⟩
    · cases f <;> first | exact absurd rfl hf | trivial | nofun
    · cases f <;> first | exact absurd rfl hf | nofun
  put_other c f g v hne := ComponentField.put_other c v hne
  field := ComponentField.fieldLaw h

/-- Components, and lists of them, are read as they are written. -/
theorem lawful_reader (depth : Nat) :
    Lawful depth (reader depth) write Tagged ∧
      Lawful depth (listReader depth) writeAll fun cs => ∀ c ∈ cs, c.Tagged := by
  induction depth with
  | zero =>
    constructor
    · exact Record.lawful_zero _ nesting_write_pos
    · exact lawful_list (r := fun _ s => .error ⟨.tooDeep, s, 0⟩) begins_write closed_write nofun
  | succ depth ih =>
    constructor
    · have hlawful := (law ih.2).lawful
      simp only [write_record] at hlawful
      exact hlawful.congr fun c => forall_ok_iff
    · refine lawful_list (r := fun _ => reader depth) begins_write closed_write fun d hd => ?_
      obtain rfl := Nat.succ.inj hd
      exact ih.1

end Component

end Pagewright
