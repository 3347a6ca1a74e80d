/-
  Readers that take exactly what is written within a depth.

  * `Lawful depth r write ok`: the reader `r` reads back every value that is
    `ok` and written with at most `depth` nested brackets, and yields no others;
  * `lawful_string`, …, `lawful_list`, `lawful_map`: the readers of values;
  * `ValueLaw`, `FieldLaw`: the same for the fields of a record, which may be left
    out;
  * `Record.Law.lawful`: a record whose fields are read and written one by one;
  * `Lawful.readDocument_iff`: a document is read back exactly when it fits.
-/
import Pagewright.Proofs.Json.Nesting
import Pagewright.Proofs.Json.Records
import Pagewright.Proofs.Json.Yields

namespace Pagewright.Json

/-- A reader that reads back the `ok` values that nest at most `depth` brackets as they are
    written, and yields only such values. -/
structure Lawful {α : Type} (depth : Nat) (r : Reader α) (write : α → String) (ok : α → Prop) :
    Prop where
  reads : ∀ v, ok v → nesting (write v) ≤ depth → Reads r (write v) v
  yields : Yields r fun v => ok v ∧ nesting (write v) ≤ depth

variable {α : Type} {depth : Nat} {r : Reader α} {write : α → String} {ok : α → Prop}

theorem Lawful.congr {ok' : α → Prop} (h : Lawful depth r write ok) (hok : ∀ v, ok v ↔ ok' v) :
    Lawful depth r write ok' where
  reads v hv := h.reads v ((hok v).2 hv)
  yields := h.yields.mono fun v hv => ⟨(hok v).1 hv.1, hv.2⟩

/-! ## Values -/

theorem lawful_string (depth : Nat) : Lawful depth readString writeString fun _ => True where
  reads s _ _ := reads_string s
  yields _ s _ _ := ⟨trivial, (nests_writeString s).nesting_eq ▸ Nat.zero_le _⟩

theorem lawful_bool (depth : Nat) : Lawful depth readBool writeBool fun _ => True where
  reads b _ _ := reads_bool b
  yields _ b _ _ := ⟨trivial, (nests_writeBool b).nesting_eq ▸ Nat.zero_le _⟩

theorem lawful_uint32 (depth : Nat) :
    Lawful depth readUInt32 (fun n => toString n.toNat) fun _ => True where
  reads n _ _ := reads_uint32 n
  yields _ n _ _ := ⟨trivial, (nests_toString n.toNat).nesting_eq ▸ Nat.zero_le _⟩

/-- Variants are read back by their names, if each is found under its own. -/
theorem lawful_variant (depth : Nat) {variants : List (String × α)} {name : α → String}
    (h : ∀ v, variants.lookup (name v) = some v) :
    Lawful depth (readVariant depth variants) (fun v => writeString (name v)) fun _ => True where
  reads v _ _ := reads_variant depth (h v)
  yields _ v _ _ := ⟨trivial, (nests_writeString (name v)).nesting_eq ▸ Nat.zero_le _⟩

/-- A list of values that are read with one bracket less. -/
theorem lawful_list {r : Nat → Reader α} (hbegins : ∀ v, Begins (write v))
    (hclosed : ∀ v, Closed (write v)) (h : ∀ d, depth = d + 1 → Lawful d (r d) write ok) :
    Lawful depth (readList depth r) (fun vs => writeList (vs.map write))
      fun vs => ∀ v ∈ vs, ok v := by
  have hvalues : ∀ vs : List α, ∀ w ∈ vs.map write, Closed w := fun vs =>
    List.forall_mem_map.2 fun v _ => hclosed v
  constructor
  · intro vs hok hdepth
    have hpos := Nat.lt_of_lt_of_le (nesting_writeList_pos (hvalues vs)) hdepth
    obtain ⟨d, rfl⟩ := Nat.exists_eq_succ_of_ne_zero (Nat.ne_of_gt hpos)
    have hfits := List.forall_mem_map.1 ((nesting_writeList_le (hvalues vs)).1 hdepth)
    exact reads_list (fun v hv => (h d rfl).reads v (hok v hv) (hfits v hv)) fun v _ => hbegins v
  · refine (yields_list fun d hd => (h d hd).yields).mono fun vs => ?_
    rintro ⟨d, rfl, hvs⟩
    exact ⟨fun v hv => (hvs v hv).1,
      (nesting_writeList_le (hvalues vs)).2 (List.forall_mem_map.2 fun v hv => (hvs v hv).2)⟩

theorem lawful_strings (depth : Nat) :
    Lawful depth (readStrings depth) writeStrings fun _ => True := by
  have h : Lawful depth (readStrings depth) writeStrings fun ss => ∀ s ∈ ss, True :=
    lawful_list begins_writeString closed_writeString fun d _ => lawful_string d
  exact h.congr fun ss => by simp

/-- A map that is written entry by entry, if putting the entries makes the map again. -/
theorem lawful_map {σ : Type} {empty : σ} {insert : σ → String → String → σ}
    {entries : σ → List (String × String)}
    (h : ∀ m, (entries m).foldl (fun acc p => insert acc p.1 p.2) empty = m) :
    Lawful depth (readMap depth empty insert)
      (fun m => writeObject ((entries m).map fun p => (p.1, writeString p.2))) fun _ => True := by
  have hvalues : ∀ m, ∀ p ∈ (entries m).map fun p => (p.1, writeString p.2), Closed p.2 :=
    fun m => List.forall_mem_map.2 fun p _ => closed_writeString p.2
  constructor
  · intro m _ hdepth
    have hpos := Nat.lt_of_lt_of_le (nesting_writeObject_pos (hvalues m)) hdepth
    obtain ⟨d, rfl⟩ := Nat.exists_eq_succ_of_ne_zero (Nat.ne_of_gt hpos)
    have hread : Reads (readMap (d + 1) empty insert) _ _ := reads_map d empty (entries m)
    rwa [h] at hread
  · refine (yields_map depth empty insert).mono fun m hpos => ⟨trivial, ?_⟩
    obtain ⟨d, rfl⟩ := Nat.exists_eq_succ_of_ne_zero (Nat.ne_of_gt hpos)
    refine (nesting_writeObject_le (hvalues m)).2 (List.forall_mem_map.2 fun p _ => ?_)
    rw [(nests_writeString p.2).nesting_eq]
    exact Nat.zero_le d

/-! ## Fields -/

/-- What the values of a field are read from and written as: `written` leaves some values out,
    and what is read is decoded to a value. -/
structure ValueLaw {α β : Type} (depth : Nat) (r : Reader β) (decode : β → α)
    (written : α → Option String) (ok : α → Prop) : Prop where
  reads : ∀ x, ok x → ∀ w ∈ written x, nesting w ≤ depth → ∃ y, decode y = x ∧ Reads r w y
  yields : Yields r fun y => ok (decode y) ∧ ∀ w ∈ written (decode y), nesting w ≤ depth

/-- A value that is written always, or left out in some cases. -/
theorem ValueLaw.of_lawful (h : Lawful depth r write ok) {written : α → Option String}
    (hwritten : ∀ x, ∀ w ∈ written x, w = write x) : ValueLaw depth r (fun x => x) written ok where
  reads x hx w hw hdepth := by
    obtain rfl := hwritten x w hw
    exact ⟨x, rfl, h.reads x hx hdepth⟩
  yields := h.yields.mono fun x hx => ⟨hx.1, fun w hw => hwritten x w hw ▸ hx.2⟩

/-- A value that is never left out. -/
theorem ValueLaw.always (h : Lawful depth r write ok) :
    ValueLaw depth r (fun x => x) (fun x => some (write x)) ok :=
  .of_lawful h fun _ _ hw => (Option.some.inj hw).symm

/-- A value that may be missing. -/
theorem ValueLaw.option (h : Lawful depth r write fun _ => True)
    (hbegins : ∀ x, Begins (write x)) :
    ValueLaw depth (readOption r) (fun o => o) (fun o => o.map write) fun _ => True where
  reads o _ w hw hdepth := by
    obtain ⟨x, rfl, rfl⟩ := Option.map_eq_some_iff.1 hw
    exact ⟨some x, rfl, (h.reads x trivial hdepth).some (hbegins x)⟩
  yields := (yields_option h.yields).mono fun o ho => by
    refine ⟨trivial, fun w hw => ?_⟩
    obtain ⟨x, rfl, rfl⟩ := Option.map_eq_some_iff.1 hw
    exact (ho x rfl).2

/-- A field of a record: `read` reads it into a record, inside of `depth` brackets, `written` is
    what it is written as, `put` takes it from another record, and `ok` is what it must be to be
    read back. -/
structure FieldLaw {σ : Type} (depth : Nat) (read : σ → Reader σ) (written : σ → Option String)
    (put : σ → σ → σ) (ok : σ → Prop) : Prop where
  reads : ∀ c v, ok c → ∀ w ∈ written c, nesting w ≤ depth → Reads (read v) w (put c v)
  yields : ∀ v, Yields (read v) fun c => c = put c v ∧ ok c ∧ ∀ w ∈ written c, nesting w ≤ depth

/-- A field that is read, got and set as a value. -/
theorem ValueLaw.field {β σ : Type} {r : Reader β} {decode : β → α} {written : α → Option String}
    (h : ValueLaw depth r decode written ok) (get : σ → α) (set : σ → α → σ)
    {read : σ → Reader σ} {fieldWritten : σ → Option String} {put : σ → σ → σ}
    {fieldOk : σ → Prop}
    (hread : ∀ v s, read v s = r s >>= fun p => .ok (set v (decode p.1), p.2))
    (hwritten : ∀ c, fieldWritten c = written (get c)) (hput : ∀ c v, put c v = set v (get c))
    (hget : ∀ v x, get (set v x) = x) (hok : ∀ c, fieldOk c ↔ ok (get c)) :
    FieldLaw depth read fieldWritten put fieldOk := by
  constructor
  · intro c v hc w hw hdepth rest hrest
    obtain ⟨y, hy, hr⟩ := h.reads (get c) ((hok c).1 hc) w (hwritten c ▸ hw) hdepth
    rw [hread, hr rest hrest, hput, ← hy]
    rfl
  · intro v s c rest hr
    rw [hread] at hr
    obtain ⟨⟨y, t⟩, hy, hr⟩ := bind_ok_iff.1 hr
    obtain ⟨rfl, -⟩ := Prod.mk.inj (Except.ok.inj hr)
    obtain ⟨hyok, hdepth⟩ := h.yields s y t hy
    refine ⟨?_, (hok _).2 ?_, ?_⟩
    · rw [hput, hget]
    · rw [hget]
      exact hyok
    · rw [hwritten, hget]
      exact hdepth

/-! ## Records -/

namespace Record

variable {φ σ : Type}

/-- A record whose fields are read and written one by one inside of `depth` brackets. -/
structure Law (r : Record φ σ) (depth : Nat) (written : σ → φ → Option String)
    (put : σ → φ → σ → σ) (ok : σ → φ → Prop) : Prop where
  nodup : r.fields.Nodup
  mem : ∀ f, f ∈ r.fields
  label : ∀ f, r.field? (r.label f) = some f
  required : ∀ c f, r.presence f = .required → (written c f).isSome
  closed : ∀ c f, ∀ w ∈ written c f, Closed w
  put_comm : ∀ c f g v, f ≠ g → put c f (put c g v) = put c g (put c f v)
  foldl_put : ∀ c v, r.fields.foldl (fun v f => put c f v) v = c
  /-- Fields that are left out are blank. -/
  put_blank : ∀ c f, written c f = none → put c f r.blank = r.blank
  /-- What may be missing is fine in a blank record. -/
  blank : ∀ f, r.presence f ≠ .required →
    ok r.blank f ∧ ∀ w ∈ written r.blank f, nesting w ≤ depth
  /-- Putting one field leaves the others alone. -/
  put_other : ∀ c f g v, g ≠ f → written (put c f v) g = written v g ∧ (ok (put c f v) g ↔ ok v g)
  field : ∀ f, FieldLaw depth (r.read f) (written · f) (put · f) (ok · f)

variable {r : Record φ σ} {written : σ → φ → Option String} {put : σ → φ → σ → σ}
  {ok : σ → φ → Prop}

/-- A record fits when there is a bracket for it and its fields fit inside. -/
theorem Law.nesting_write_le (h : r.Law depth written put ok) (c : σ) :
    nesting (r.write (written c)) ≤ depth + 1 ↔
      ∀ f, ∀ w ∈ written c f, nesting w ≤ depth := by
  have hclosed : ∀ m ∈ (r.given (written c)).map fun m => (r.label m.1, m.2), Closed m.2 :=
    List.forall_mem_map.2 fun m hm => h.closed c m.1 m.2 (mem_given.1 hm).2
  rw [write, nesting_writeObject_le hclosed, List.forall_mem_map]
  constructor
  · intro hall f w hw
    exact hall (f, w) (mem_given.2 ⟨h.mem f, hw⟩)
  · intro hall m hm
    exact hall m.1 m.2 (mem_given.1 hm).2

theorem Law.restores (h : r.Law depth written put ok) {c : σ} (hok : ∀ f, ok c f)
    (hdepth : ∀ f, ∀ w ∈ written c f, nesting w ≤ depth) :
    r.Restores (written c) (put c) c where
  nodup := h.nodup
  label f _ := h.label f
  required f _ := h.required c f
  read f _ w hw v := (h.field f).reads c v (hok f) w hw (hdepth f w hw)
  result := by
    have hblank : ∀ f ∈ r.fields, (written c f).isSome = false → put c f r.blank = r.blank :=
      fun f _ hf => h.put_blank c f (by simpa using hf)
    rw [foldl_filter_put (h.put_comm c) hblank, h.foldl_put]

/-- A record is read back exactly when its fields are. -/
theorem Law.lawful [DecidableEq φ] (h : r.Law depth written put ok) :
    Lawful (depth + 1) (r.reader true) (fun c => r.write (written c)) fun c => ∀ f, ok c f := by
  constructor
  · intro c hok hdepth
    exact (h.restores hok ((h.nesting_write_le c).1 hdepth)).reads
  · have hfields : ∀ f v, Yields (r.read f v) fun c =>
        (ok c f ∧ ∀ w ∈ written c f, nesting w ≤ depth) ∧ ∀ g, g ≠ f →
          (ok v g ∧ ∀ w ∈ written v g, nesting w ≤ depth) →
          ok c g ∧ ∀ w ∈ written c g, nesting w ≤ depth := by
      intro f v
      refine ((h.field f).yields v).mono fun c => ?_
      rintro ⟨hput, hfield⟩
      refine ⟨hfield, fun g hg hv => ?_⟩
      obtain ⟨hwritten, hok⟩ := h.put_other c f g v hg
      rw [hput, hwritten, hok]
      exact hv
    refine (yields_reader hfields h.mem h.blank true).mono fun c hc => ?_
    exact ⟨fun f => (hc.2 f).1, (h.nesting_write_le c).2 fun f => (hc.2 f).2⟩

/-- Where no bracket may be opened, no record is read. -/
theorem lawful_zero [DecidableEq φ] (r : Record φ σ) {write : σ → String} {ok : σ → Prop}
    (h : ∀ c, 0 < nesting (write c)) : Lawful 0 (r.reader false) write ok where
  reads c _ hdepth := absurd hdepth (Nat.not_le_of_gt (h c))
  yields := by
    intro s c rest hr
    unfold reader at hr
    split at hr
    · cases hr
    · simp only [Bool.not_false, if_true] at hr
      split_ifs at hr

end Record

/-! ## Documents -/

/-- A document is read back exactly when its value fits. -/
theorem Lawful.readDocument_iff (h : Lawful depth r write ok) (v : α) :
    readDocument r (write v).toList = .ok v ↔ ok v ∧ nesting (write v) ≤ depth :=
  ⟨fun hv => h.yields.readDocument hv, fun hv => readDocument_of_reads (h.reads v hv.1 hv.2)⟩

/-- The value of any document is read back as it is written. -/
theorem Lawful.readDocument (h : Lawful depth r write ok) {source : List Char} {v : α}
    (hv : readDocument r source = .ok v) : readDocument r (write v).toList = .ok v :=
  (h.readDocument_iff v).2 (h.yields.readDocument hv)

end Pagewright.Json
