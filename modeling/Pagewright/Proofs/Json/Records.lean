/-
  Records are read back as they are written.

  * `Record.write`: a record as an object of its fields, in the order of their
    declaration, those left out that are not written;
  * `readFields_separated`: members with distinct labels are put one after the
    other;
  * `foldl_filter_put`: fields that are left out change nothing where they are
    blank;
  * `Restores.reads`: what makes a record read back.
-/
import Pagewright.Json.Record
import Pagewright.Proofs.Json.Values

namespace Pagewright.Json

namespace Record

variable {φ σ : Type} [DecidableEq φ] {r : Record φ σ} {put : φ → σ → σ}

theorem missing?_eq_none {seen : List φ}
    (h : ∀ f ∈ r.fields, r.presence f = .required → f ∈ seen) : r.missing? seen = none := by
  rw [missing?, List.find?_eq_none]
  intro f hf hmissing
  simp only [Bool.and_eq_true, decide_eq_true_eq] at hmissing
  exact hmissing.2 (h f hf hmissing.1)

/-- Members with distinct labels, among them all that must be there, are read one after the
    other. -/
theorem readFields_separated (ms : List (φ × String)) (rest : List Char)
    (hlabel : ∀ m ∈ ms, r.field? (r.label m.1) = some m.1)
    (hread : ∀ m ∈ ms, ∀ v, Reads (r.read m.1 v) m.2 (put m.1 v)) {seen : List φ}
    (hnodup : (ms.map (·.1) ++ seen).Nodup)
    (hrequired : ∀ f ∈ r.fields, r.presence f = .required → f ∈ ms.map (·.1) ++ seen)
    (first : Bool) {fuel : Nat} (hfuel : ms.length < fuel) (v : σ) :
    r.readFields first fuel seen v
        (separated first (ms.map fun m => member (r.label m.1, m.2)) ++ '\x7d' :: rest) =
      .ok (ms.foldl (fun v m => put m.1 v) v, rest) := by
  induction ms generalizing seen first fuel v with
  | nil =>
    obtain ⟨fuel, rfl⟩ := Nat.exists_eq_succ_of_ne_zero (Nat.ne_zero_of_lt hfuel)
    have hmissing := missing?_eq_none hrequired
    rw [List.map_nil, List.nil_append] at hmissing
    rw [List.map_nil, separated, List.nil_append, readFields, nextKey_done]
    simp only [bind, Except.bind, hmissing, List.foldl_nil]
  | cons m ms ih =>
    obtain ⟨fuel, rfl⟩ := Nat.exists_eq_succ_of_ne_zero (Nat.ne_zero_of_lt hfuel)
    obtain ⟨hfield, hlabel⟩ := List.forall_mem_cons.1 hlabel
    obtain ⟨hvalue, hread⟩ := List.forall_mem_cons.1 hread
    have hperm : (ms.map (·.1) ++ m.1 :: seen).Perm ((m :: ms).map (·.1) ++ seen) :=
      List.perm_middle
    have hnew : m.1 ∉ seen := fun hm =>
      (List.nodup_cons.1 hnodup).1 (List.mem_append_right _ hm)
    have hrest := ih hlabel hread (hperm.nodup_iff.2 hnodup)
      (fun f hf hp => hperm.mem_iff.2 (hrequired f hf hp)) false (Nat.lt_of_succ_lt_succ hfuel)
      (put m.1 v)
    have hvalue := hvalue v _ (follows_separated (d := '\x7d') (by decide)
      (ms.map fun m => member (r.label m.1, m.2)) rest)
    rw [List.map_cons, separated, toList_member, readFields]
    simp only [List.append_assoc, List.cons_append]
    rw [nextKey_more]
    simp only [bind, Except.bind, scanString_writeString, hfield, if_neg hnew, passColon_colon,
      hvalue, hrest, List.foldl_cons]

/-! ## Written records -/

section
omit [DecidableEq φ]
variable (r)

/-- The fields of a record that are written, each with what it is written as. -/
def given (written : φ → Option String) : List (φ × String) :=
  r.fields.filterMap fun f => (written f).map (f, ·)

/-- A record as it is written: its fields in the order of their declaration, some left out. -/
def write (written : φ → Option String) : String :=
  writeObject ((r.given written).map fun m => (r.label m.1, m.2))

variable {r} {written : φ → Option String}

theorem mem_given {m : φ × String} :
    m ∈ r.given written ↔ m.1 ∈ r.fields ∧ m.2 ∈ written m.1 := by
  obtain ⟨f, w⟩ := m
  simp only [given, List.mem_filterMap, Option.map_eq_some_iff, Prod.mk.injEq, Option.mem_def]
  constructor
  · rintro ⟨f, hf, w, hw, rfl, rfl⟩
    exact ⟨hf, hw⟩
  · rintro ⟨hf, hw⟩
    exact ⟨f, hf, w, hw, rfl, rfl⟩

theorem map_given : (r.given written).map (·.1) = r.fields.filter fun f => (written f).isSome := by
  rw [given]
  induction r.fields with
  | nil => rfl
  | cons f fs ih =>
    cases hw : written f with
    | none =>
      rw [List.filterMap_cons_none (by rw [hw]; rfl), List.filter_cons_of_neg (by simp [hw]), ih]
    | some w =>
      rw [List.filterMap_cons_some (by rw [hw]; rfl), List.filter_cons_of_pos (by simp [hw]),
        List.map_cons, ih]

/-- Fields that are left out change nothing when they are put as well. -/
theorem foldl_filter_put (hcomm : ∀ f g v, f ≠ g → put f (put g v) = put g (put f v))
    {p : φ → Bool} {fs : List φ} {v : σ} (h : ∀ f ∈ fs, p f = false → put f v = v) :
    (fs.filter p).foldl (fun v f => put f v) v = fs.foldl (fun v f => put f v) v := by
  induction fs generalizing v with
  | nil => rfl
  | cons f fs ih =>
    obtain ⟨hf, hfs⟩ := List.forall_mem_cons.1 h
    rw [List.foldl_cons]
    cases hp : p f with
    | false => rw [List.filter_cons_of_neg (by simp [hp]), hf hp, ih hfs]
    | true =>
      rw [List.filter_cons_of_pos hp, List.foldl_cons]
      refine ih fun g hg hgp => ?_
      have hne : g ≠ f := by
        rintro rfl
        rw [hp] at hgp
        cases hgp
      rw [hcomm g f v hne, hfs g hg hgp]

end

/-- A record whose fields are written in such a way that `c` is read back: each written field
    is read as it is put, and all written fields together make `c` of a blank record. -/
structure Restores (r : Record φ σ) (written : φ → Option String) (put : φ → σ → σ) (c : σ) :
    Prop where
  nodup : r.fields.Nodup
  label : ∀ f ∈ r.fields, r.field? (r.label f) = some f
  required : ∀ f ∈ r.fields, r.presence f = .required → (written f).isSome
  read : ∀ f ∈ r.fields, ∀ w ∈ written f, ∀ v, Reads (r.read f v) w (put f v)
  result : (r.fields.filter fun f => (written f).isSome).foldl (fun v f => put f v) r.blank = c

/-- A record is read back as it is written. -/
theorem Restores.reads {written : φ → Option String} {c : σ} (h : r.Restores written put c) :
    Reads (r.reader true) (r.write written) c := by
  intro rest _
  have hlength := length_le_separated
    (List.forall_mem_map.2 fun m (_ : m ∈ r.given written) => begins_member (r.label m.1, m.2))
    true
  have hkeys : (r.given written).map Prod.fst ++ [] =
      r.fields.filter fun f => (written f).isSome := by
    rw [List.append_nil, map_given]
  have hnodup : ((r.given written).map Prod.fst ++ []).Nodup := hkeys ▸ h.nodup.filter _
  have hrequired : ∀ f ∈ r.fields, r.presence f = .required →
      f ∈ (r.given written).map Prod.fst ++ [] := fun f hf hp =>
    hkeys ▸ List.mem_filter.2 ⟨hf, h.required f hf hp⟩
  have hresult : (r.given written).foldl (fun v m => put m.1 v) r.blank = c := by
    rw [← h.result, ← map_given, List.foldl_map]
  rw [write, toList_writeObject, List.map_map, List.cons_append, reader, skipBlanks_cons rfl,
    ← hresult]
  simp only [true_or, if_true, Bool.not_true, Bool.false_eq_true, if_false, List.append_assoc,
    List.singleton_append]
  refine readFields_separated (r.given written) rest (fun m hm => h.label m.1 (mem_given.1 hm).1)
    (fun m hm => h.read m.1 (mem_given.1 hm).1 m.2 (mem_given.1 hm).2) hnodup hrequired true ?_
    r.blank
  rw [List.length_map] at hlength
  rw [List.length_append]
  exact Nat.lt_succ_of_le (Nat.le_add_right_of_le hlength)

end Record

end Pagewright.Json
