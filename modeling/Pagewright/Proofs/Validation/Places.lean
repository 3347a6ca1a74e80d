/-
  The components of pages with the places they stand at.

  * `Page.placed`: all components, page by page and in reading order, each with
    its place;
  * `placed_attrs`: these are the components that a walk over the pages meets;
  * `attrsAt_of_mem_placed`: at its place a component is found again;
  * `places_nodup`: no place occurs twice.
-/
import Mathlib.Data.List.Nodup
import Pagewright.Proofs.Component.Induction
import Pagewright.Validation.Basic

namespace Pagewright

/-! ## Placed components -/

namespace Component

mutual

/-- The components of a tree with their places, a component before its
    children. -/
def placed (place : Place) : Component → List (Place × Attributes)
  | node a cs => (place, a) :: placedFrom place 0 cs

/-- The same for the children of a component from the `k`-th on. -/
def placedFrom (place : Place) (k : Nat) : List Component → List (Place × Attributes)
  | [] => []
  | c :: cs => placed (place.child k) c ++ placedFrom place (k + 1) cs

end

theorem placedFrom_eq_flatMap (place : Place) (cs : List Component) (k : Nat) :
    placedFrom place k cs = (cs.zipIdx k).flatMap fun x => x.1.placed (place.child x.2) := by
  induction cs generalizing k with
  | nil => rfl
  | cons c cs ih => rw [placedFrom, ih, List.zipIdx_cons, List.flatMap_cons]

theorem placed_node (place : Place) (a : Attributes) (cs : List Component) :
    (node a cs).placed place =
      (place, a) :: cs.zipIdx.flatMap fun x => x.1.placed (place.child x.2) := by
  rw [placed, placedFrom_eq_flatMap]

/-- The component at the end of a way through the children of components. -/
def at? : Component → List Nat → Option Component
  | c, [] => some c
  | node _ cs, k :: ks => cs[k]?.bind (·.at? ks)

end Component

namespace Page

/-- All components of the page at a position, with their places. -/
def placedOn (index : Nat) (p : Page) : List (Place × Attributes) :=
  p.components.zipIdx.flatMap fun x => x.1.placed ⟨index, x.2, []⟩

/-- All components of pages with their places. -/
def placed (ps : List Page) : List (Place × Attributes) :=
  ps.zipIdx.flatMap fun x => x.1.placedOn x.2

/-- What the component at a place says of itself. -/
def attrsAt? (ps : List Page) (place : Place) : Option Attributes := do
  let p ← ps[place.page]?
  let c ← p.components[place.component]?
  (·.attrs) <$> c.at? place.children

end Page

/-! ## All components are placed -/

/-- A walk that does not look at positions. -/
theorem flatMap_zipIdx_fst {α β : Type} (f : α → List β) (l : List α) :
    l.zipIdx.flatMap (fun x => f x.1) = l.flatMap f := by
  rw [← List.flatMap_map, List.zipIdx_map_fst]

theorem Component.map_snd_placed (c : Component) (place : Place) :
    (c.placed place).map (·.2) = c.preorder := by
  induction c generalizing place with
  | node a cs ih =>
    have hcs : ∀ x ∈ cs.zipIdx, (x.1.placed (place.child x.2)).map (·.2) = x.1.preorder :=
      fun x hx => ih x.1 (List.fst_mem_of_mem_zipIdx hx) _
    rw [placed_node, List.map_cons, List.map_flatMap, List.flatMap_congr hcs,
      flatMap_zipIdx_fst preorder, preorder, preorderAll_eq_flatMap]

theorem Page.map_snd_placedOn (p : Page) (index : Nat) :
    (p.placedOn index).map (·.2) = p.nodes := by
  rw [placedOn, List.map_flatMap, List.flatMap_congr fun x _ => x.1.map_snd_placed _,
    flatMap_zipIdx_fst Component.preorder, nodes, Component.preorderAll_eq_flatMap]

/-- The placed components are those of the pages, in the order of a walk. -/
theorem Page.placed_attrs (ps : List Page) : (placed ps).map (·.2) = ps.flatMap nodes := by
  rw [placed, List.map_flatMap, List.flatMap_congr fun x _ => x.1.map_snd_placedOn _,
    flatMap_zipIdx_fst nodes]

/-! ## Components are found at their places -/

theorem Component.at?_of_mem_placed {c : Component} {place q : Place} {a : Attributes}
    (h : (q, a) ∈ c.placed place) :
    ∃ ks, q = { place with children := place.children ++ ks } ∧ (c.at? ks).map attrs = some a := by
  induction c generalizing place with
  | node b cs ih =>
    rw [placed_node, List.mem_cons, List.mem_flatMap] at h
    rcases h with h | ⟨⟨c, k⟩, hx, h⟩
    · obtain ⟨rfl, rfl⟩ := Prod.mk.inj h
      exact ⟨[], by simp, rfl⟩
    · obtain ⟨ks, rfl, hat⟩ := ih c (List.fst_mem_of_mem_zipIdx hx) h
      have hk : cs[k]? = some c := List.mk_mem_zipIdx_iff_getElem?.1 hx
      refine ⟨k :: ks, by simp [Place.child], ?_⟩
      rw [at?, hk]
      exact hat

/-- A placed component is found at its place. -/
theorem Page.attrsAt_of_mem_placed {ps : List Page} {place : Place} {a : Attributes}
    (h : (place, a) ∈ placed ps) : attrsAt? ps place = some a := by
  obtain ⟨⟨p, i⟩, hx, h⟩ := List.mem_flatMap.1 h
  obtain ⟨⟨c, j⟩, hy, h⟩ := List.mem_flatMap.1 h
  obtain ⟨ks, rfl, hat⟩ := Component.at?_of_mem_placed h
  have hi : ps[i]? = some p := List.mk_mem_zipIdx_iff_getElem?.1 hx
  have hj : p.components[j]? = some c := List.mk_mem_zipIdx_iff_getElem?.1 hy
  simpa [attrsAt?, hi, hj] using hat

/-! ## Places are distinct -/

/-- Lists made at different positions have nothing in common if the position
    can be read off their members. -/
theorem nodup_flatMap_zipIdx {α β : Type} {l : List α} {f : α × Nat → List β} (position : β → Nat)
    (hread : ∀ x ∈ l.zipIdx, ∀ b ∈ f x, position b = x.2) (hf : ∀ x ∈ l.zipIdx, (f x).Nodup) :
    (l.zipIdx.flatMap f).Nodup := by
  refine List.nodup_flatMap.2 ⟨hf, ?_⟩
  have hsnd : (l.zipIdx.map Prod.snd).Nodup := by
    rw [List.zipIdx_map_snd]
    exact List.nodup_range'
  refine ((List.pairwise_map.1 hsnd).imp_of_mem fun {x y} hx hy hne => ?_)
  intro b hbx hby
  exact hne ((hread x hx b hbx).symm.trans (hread y hy b hby))

theorem Component.places_nodup (c : Component) (place : Place) :
    ((c.placed place).map (·.1)).Nodup := by
  induction c generalizing place with
  | node a cs ih =>
    rw [placed_node, List.map_cons, List.map_flatMap, List.nodup_cons]
    constructor
    · intro h
      obtain ⟨⟨c, k⟩, -, h⟩ := List.mem_flatMap.1 h
      obtain ⟨⟨q, b⟩, hq, rfl⟩ := List.mem_map.1 h
      obtain ⟨ks, hks, -⟩ := at?_of_mem_placed hq
      have hlength := congrArg (fun p => p.children.length) hks
      simp [Place.child] at hlength
    · refine nodup_flatMap_zipIdx (fun q => q.children.getD place.children.length 0) ?_ ?_
      · intro x _ q hq
        obtain ⟨⟨q, b⟩, hplaced, rfl⟩ := List.mem_map.1 hq
        obtain ⟨ks, rfl, -⟩ := at?_of_mem_placed hplaced
        simp [Place.child]
      · intro x hx
        exact ih x.1 (List.fst_mem_of_mem_zipIdx hx) _

/-- **No two components have the same place.** -/
theorem Page.places_nodup (ps : List Page) : ((placed ps).map (·.1)).Nodup := by
  rw [placed, List.map_flatMap]
  refine nodup_flatMap_zipIdx Place.page ?_ fun x _ => ?_
  · intro x _ q hq
    obtain ⟨⟨q, a⟩, hplaced, rfl⟩ := List.mem_map.1 hq
    obtain ⟨y, -, hplaced⟩ := List.mem_flatMap.1 hplaced
    obtain ⟨ks, rfl, -⟩ := Component.at?_of_mem_placed hplaced
    rfl
  · rw [placedOn, List.map_flatMap]
    refine nodup_flatMap_zipIdx Place.component ?_ fun y _ => y.1.places_nodup _
    intro y _ q hq
    obtain ⟨⟨q, a⟩, hplaced, rfl⟩ := List.mem_map.1 hq
    obtain ⟨ks, rfl, -⟩ := Component.at?_of_mem_placed hplaced
    rfl

end Pagewright
