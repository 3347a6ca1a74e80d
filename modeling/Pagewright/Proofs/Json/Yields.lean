/-
  What readers yield.

  * `Yields r P`: whatever the reader `r` accepts, its value has the property
    `P`;
  * `yields_option`, `yields_list`, `yields_map`: the readers that are built
    from others, and the bracket that a list or a map takes;
  * `Record.yields_reader`: what each field has as it is read, or by default, a
    record has in all its fields, in either form.
-/
import Mathlib.Tactic.Common
import Pagewright.Json.Record

namespace Pagewright.Json

/-- A sequence of two steps succeeds when both do. -/
theorem bind_ok_iff {ε α β : Type} {x : Except ε α} {f : α → Except ε β} {b : β} :
    x >>= f = .ok b ↔ ∃ a, x = .ok a ∧ f a = .ok b := by
  cases x with
  | error e => simp [bind, Except.bind]
  | ok a => simp [bind, Except.bind]

theorem map_ok_iff {ε α β : Type} {x : Except ε α} {f : α → β} {b : β} :
    f <$> x = .ok b ↔ ∃ a, x = .ok a ∧ f a = b := by
  cases x with
  | error e => simp [Functor.map, Except.map]
  | ok a => simp [Functor.map, Except.map]

/-- Whatever a reader accepts, its value has a property. -/
def Yields {α : Type} (r : Reader α) (P : α → Prop) : Prop :=
  ∀ s v rest, r s = .ok (v, rest) → P v

variable {α : Type} {r : Reader α} {P : α → Prop}

theorem Yields.mono {Q : α → Prop} (h : Yields r P) (hPQ : ∀ v, P v → Q v) : Yields r Q :=
  fun s v rest hr => hPQ v (h s v rest hr)

/-- A value that may be missing. -/
theorem yields_option (h : Yields r P) : Yields (readOption r) fun o => ∀ v ∈ o, P v := by
  have hsome : ∀ s o rest, (fun v => (some v.1, v.2)) <$> r s = .ok (o, rest) →
      ∀ v ∈ o, P v := by
    intro s o rest hr
    obtain ⟨⟨v, t⟩, hv, hr⟩ := map_ok_iff.1 hr
    obtain ⟨rfl, -⟩ := Prod.mk.inj hr
    rintro _ ⟨⟩
    exact h s v t hv
  intro s o rest hr
  unfold readOption at hr
  split at hr
  · split_ifs at hr
    · obtain ⟨u, -, hr⟩ := map_ok_iff.1 hr
      obtain ⟨rfl, -⟩ := Prod.mk.inj hr
      nofun
    · exact hsome _ o rest hr
  · exact hsome _ o rest hr

/-! ## Lists and maps -/

theorem yields_elements (h : Yields r P) (first : Bool) (fuel : Nat) :
    Yields (readElements r first fuel) fun vs => ∀ v ∈ vs, P v := by
  induction fuel generalizing first with
  | zero => nofun
  | succ fuel ih =>
    intro s vs rest hr
    rw [readElements] at hr
    obtain ⟨next, -, hr⟩ := bind_ok_iff.1 hr
    cases next with
    | done left =>
      obtain ⟨rfl, -⟩ := Prod.mk.inj (Except.ok.inj hr)
      nofun
    | more left =>
      obtain ⟨⟨v, t⟩, hv, hr⟩ := bind_ok_iff.1 hr
      obtain ⟨⟨ws, u⟩, hws, hr⟩ := bind_ok_iff.1 hr
      obtain ⟨rfl, -⟩ := Prod.mk.inj (Except.ok.inj hr)
      exact List.forall_mem_cons.2 ⟨h left v t hv, ih false t ws u hws⟩

/-- A list takes a bracket, and its elements are read inside of it. -/
theorem yields_list {r : Nat → Reader α} {P : Nat → α → Prop} {depth : Nat}
    (h : ∀ d, depth = d + 1 → Yields (r d) (P d)) :
    Yields (readList depth r) fun vs => ∃ d, depth = d + 1 ∧ ∀ v ∈ vs, P d v := by
  intro s vs rest hr
  unfold readList at hr
  split at hr
  · cases hr
  · split_ifs at hr
    cases depth with
    | zero => cases hr
    | succ d => exact ⟨d, rfl, yields_elements (h d rfl) _ _ _ vs rest hr⟩

/-- A map takes a bracket. -/
theorem yields_map {σ : Type} (depth : Nat) (empty : σ) (insert : σ → String → String → σ) :
    Yields (readMap depth empty insert) fun _ => 0 < depth := by
  intro s v rest hr
  unfold readMap at hr
  split at hr
  · cases hr
  · split_ifs at hr
    cases depth with
    | zero => cases hr
    | succ d => exact Nat.succ_pos d

/-! ## Records -/

namespace Record

variable {φ σ : Type} [DecidableEq φ] {r : Record φ σ} {Q : φ → σ → Prop}

theorem mem_of_missing? {seen : List φ} (h : r.missing? seen = none) {f : φ} (hf : f ∈ r.fields)
    (hrequired : r.presence f = .required) : f ∈ seen := by
  by_contra hseen
  refine List.find?_eq_none.1 h f hf ?_
  simp [hrequired, hseen]

/-- Reading a field keeps what is said of the others. -/
theorem forall_of_read {f : φ} {u v : σ} {p : φ → Prop} (hfield : Q f u)
    (hothers : ∀ g, g ≠ f → Q g v → Q g u) (hv : ∀ g, g ≠ f → p g → Q g v) :
    ∀ g, p g → Q g u := by
  intro g hg
  by_cases hgf : g = f
  · exact hgf ▸ hfield
  · exact hothers g hgf (hv g hgf hg)

variable (hread : ∀ f v, Yields (r.read f v) fun u => Q f u ∧ ∀ g, g ≠ f → Q g v → Q g u)
include hread

/-- In an object, what has been read and what may be missing has the property. -/
theorem yields_fields (hmem : ∀ f, f ∈ r.fields) (first : Bool) (fuel : Nat) (seen : List φ) {v : σ}
    (hv : ∀ f, f ∈ seen ∨ r.presence f ≠ .required → Q f v) :
    Yields (r.readFields first fuel seen v) fun u => ∀ f, Q f u := by
  induction fuel generalizing first seen v with
  | zero => nofun
  | succ fuel ih =>
    intro s u rest hr
    rw [readFields] at hr
    obtain ⟨next, -, hr⟩ := bind_ok_iff.1 hr
    cases next with
    | done left =>
      dsimp only at hr
      split at hr
      · cases hr
      · rename_i hmissing
        obtain ⟨rfl, -⟩ := Prod.mk.inj (Except.ok.inj hr)
        intro f
        refine hv f (Classical.or_iff_not_imp_right.2 fun hf => ?_)
        exact mem_of_missing? hmissing (hmem f) (not_not.1 hf)
    | more left =>
      obtain ⟨⟨label, t⟩, -, hr⟩ := bind_ok_iff.1 hr
      dsimp only at hr
      split at hr
      · obtain ⟨t, -, hr⟩ := bind_ok_iff.1 hr
        obtain ⟨t, -, hr⟩ := bind_ok_iff.1 hr
        exact ih false seen hv t u rest hr
      · rename_i f _
        split_ifs at hr
        obtain ⟨t, -, hr⟩ := bind_ok_iff.1 hr
        obtain ⟨⟨w, t'⟩, hw, hr⟩ := bind_ok_iff.1 hr
        obtain ⟨hfield, hothers⟩ := hread f v t w t' hw
        refine ih false (f :: seen) (forall_of_read hfield hothers fun g hg hp => hv g ?_) t' u
          rest hr
        exact hp.imp_left fun h => (List.mem_cons.1 h).resolve_left hg

/-- In a list, what has been read and what may be missing has the property. -/
theorem yields_items (first : Bool) (i : Nat) (fs : List φ) {v : σ}
    (hv : ∀ f, f ∉ fs ∨ r.presence f ≠ .required → Q f v) :
    Yields (r.readItems first i fs v) fun u => ∀ f, Q f u := by
  induction fs generalizing first i v with
  | nil =>
    intro s u rest hr
    rw [readItems] at hr
    obtain ⟨t, -, hr⟩ := map_ok_iff.1 hr
    obtain ⟨rfl, -⟩ := Prod.mk.inj hr
    exact fun f => hv f (Or.inl List.not_mem_nil)
  | cons f fs ih =>
    intro s u rest hr
    rw [readItems] at hr
    obtain ⟨next, -, hr⟩ := bind_ok_iff.1 hr
    cases next with
    | done left =>
      dsimp only at hr
      split_ifs at hr with hdefaulted
      refine ih first (i + 1) (fun g hg => hv g ?_) s u rest hr
      by_cases hgf : g = f
      · exact Or.inr (by rw [hgf, hdefaulted]; decide)
      · exact hg.imp_left fun h hmem => h ((List.mem_cons.1 hmem).resolve_left hgf)
    | more left =>
      obtain ⟨⟨w, t⟩, hw, hr⟩ := bind_ok_iff.1 hr
      obtain ⟨hfield, hothers⟩ := hread f v left w t hw
      refine ih false (i + 1) (forall_of_read hfield hothers fun g hg hp => hv g ?_) t u rest hr
      exact hp.imp_left fun h hmem => h ((List.mem_cons.1 hmem).resolve_left hg)

/-- What a blank record has in the fields that may be missing, and each field has as it is read, a
    record has in all fields. -/
theorem yields_reader (hmem : ∀ f, f ∈ r.fields)
    (hblank : ∀ f, r.presence f ≠ .required → Q f r.blank) (allowed : Bool) :
    Yields (r.reader allowed) fun v => allowed ∧ ∀ f, Q f v := by
  intro s v rest hr
  unfold reader at hr
  split at hr
  · cases hr
  · cases allowed with
    | false =>
      simp only [Bool.not_false, if_true] at hr
      split_ifs at hr
    | true =>
      refine ⟨rfl, ?_⟩
      simp only [Bool.not_true, Bool.false_eq_true, if_false] at hr
      split_ifs at hr
      · exact yields_items hread true 0 r.fields
          (fun f hf => hblank f (hf.resolve_left (not_not.2 (hmem f)))) _ v rest hr
      · exact yields_fields hread hmem true _ []
          (fun f hf => hblank f (hf.resolve_left List.not_mem_nil)) _ v rest hr

end Record

theorem Yields.readDocument (h : Yields r P) {source : List Char} {v : α}
    (hv : readDocument r source = .ok v) : P v := by
  rw [Json.readDocument] at hv
  obtain ⟨⟨u, s⟩, hu, hv⟩ := bind_ok_iff.1 hv
  dsimp only at hv
  split at hv
  · obtain rfl := Except.ok.inj hv
    exact h source u s hu
  · cases hv

end Pagewright.Json
