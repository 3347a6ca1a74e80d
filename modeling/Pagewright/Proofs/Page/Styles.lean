/-
  Styles that are given one after the other.

  * `Styles.lastGiven`: what pairs come to, which is each property where it is first given,
    with the value that it is given last;
  * `entries_foldl_insert_behind`, `withStyles_eq`: that is what there is of styles that are
    given one by one;
  * `hasLastGiven`: and of those that are read from an object.
-/
import Pagewright.Proofs.Page.Rearranged

namespace Pagewright

/-! ## Properties that are given more than once -/

namespace Styles

/-- What pairs come to: each property where it first stands, with the value that it has
    where it last stands. -/
def lastGiven (ps : List (String × String)) : List (String × String) :=
  (ps.map (·.1)).eraseDups.filterMap fun k => (ps.reverse.lookup k).map (k, ·)

/-- Pairs with distinct keys are found again under their keys. -/
theorem filterMap_lookup {ps : List (String × String)} (h : (ps.map (·.1)).Nodup) :
    ((ps.map (·.1)).filterMap fun k => (ps.lookup k).map (k, ·)) = ps := by
  induction ps with
  | nil => rfl
  | cons p ps ih =>
    rw [List.map_cons, List.nodup_cons] at h
    obtain ⟨hp, hps⟩ := h
    have hfirst : (p :: ps).lookup p.1 = some p.2 := List.lookup_cons_self
    have hrest : ∀ k ∈ ps.map (·.1),
        ((p :: ps).lookup k).map (k, ·) = (ps.lookup k).map (k, ·) := by
      intro k hk
      have hne : k ≠ p.1 := fun heq => hp (heq ▸ hk)
      rw [List.lookup_cons, beq_eq_false_iff_ne.2 hne]
    rw [List.map_cons, List.filterMap_cons, hfirst, List.filterMap_congr hrest, ih hps]
    rfl

theorem entries_foldl_insert_empty (ps : List (String × String)) :
    (ps.foldl (fun acc p => acc.insert p.1 p.2) Styles.empty).entries = lastGiven ps := by
  have hvalue := value?_foldl_insert ps
  rw [← filterMap_lookup (ps.foldl (fun acc p => acc.insert p.1 p.2) Styles.empty).nodup,
    keys_foldl_insert, lastGiven]
  exact List.filterMap_congr fun k _ => congrArg (Option.map (k, ·)) (hvalue k)

/-- More pairs are given behind those that there are. -/
theorem entries_foldl_insert_behind (s : Styles) (ps : List (String × String)) :
    (ps.foldl (fun acc p => acc.insert p.1 p.2) s).entries = lastGiven (s.entries ++ ps) := by
  rw [← entries_foldl_insert_empty, List.foldl_append, foldl_insert_entries]

end Styles

namespace Component

/-- Gives styles one after the other. -/
def withStyles (ps : List (String × String)) (c : Component) : Component :=
  ps.foldl (fun c p => c.withStyle p.1 p.2) c

theorem withStyles_eq (ps : List (String × String)) (c : Component) :
    c.withStyles ps = c.modify fun a =>
      { a with styles := ps.foldl (fun acc p => acc.insert p.1 p.2) a.styles } := by
  induction ps generalizing c with
  | nil => cases c; rfl
  | cons p ps ih =>
    cases c
    exact ih _

end Component

/-! ## Styles that are read -/

open Json

/-- The styles of a component that is read from a value are what the pairs of their object
    come to. -/
def Component.HasLastGiven (j : Value) (c : Component) : Prop :=
  ∀ es, ComponentField.styles.ValueOf j (.object es) →
    ∃ ps, es.mapM Value.asPair = some ps ∧ c.attrs.styles.entries = Styles.lastGiven ps

namespace Component

theorem hasLastGiven {depth : Nat} {j : Value} {c : Component} (h : decode depth j = some c) :
    c.HasLastGiven j := by
  intro es hes
  obtain ⟨ps, hps, hstyles⟩ := styles_of_decode h hes
  exact ⟨ps, hps, hstyles ▸ Styles.entries_foldl_insert_empty ps⟩

end Component

end Pagewright
