/-
  The names of the members of a page class.

  * `Collision.mem_shared`: a name is reported exactly if it occurs more than
    once;
  * `memberNames_nodup_iff`: the members have distinct names exactly if no
    property and no method is reported and no property has the name of a method;
  * `memberNames_clash_unreported`: the last condition does not follow from the
    others, since properties and methods are compared among themselves only.
-/
import Mathlib.Data.List.Nodup
import Pagewright.Collision

namespace Pagewright

/-! ## Shared names -/

namespace Collision

variable {kind : CollisionKind} {pairs : List (String × String)}

theorem length_ownersOf (name : String) (pairs : List (String × String)) :
    (ownersOf name pairs).length = (pairs.map (·.1)).count name := by
  rw [ownersOf, List.length_map, ← List.countP_eq_length_filter, List.count, List.countP_map]
  rfl

/-- A name is reported exactly if it occurs more than once, with all its
    owners. -/
theorem mem_shared {c : Collision} :
    c ∈ shared kind pairs ↔
      c = ⟨kind, c.name, ownersOf c.name pairs⟩ ∧ 1 < (pairs.map (·.1)).count c.name := by
  rw [shared, List.mem_filter, List.mem_map, decide_eq_true_eq]
  constructor
  · rintro ⟨⟨name, -, rfl⟩, hlength⟩
    rw [length_ownersOf] at hlength
    exact ⟨rfl, hlength⟩
  · rintro ⟨hc, hcount⟩
    have hmem : c.name ∈ pairs.map (·.1) := List.count_pos_iff.1 (by omega)
    refine ⟨⟨c.name, List.mem_eraseDups.2 hmem, hc.symm⟩, ?_⟩
    rw [hc, length_ownersOf]
    exact hcount

theorem kind_of_mem_shared {c : Collision} (h : c ∈ shared kind pairs) : c.kind = kind := by
  rw [(mem_shared.1 h).1]

theorem filter_shared (kind' : CollisionKind) :
    (shared kind pairs).filter (fun c => c.kind = kind') =
      if kind = kind' then shared kind pairs else [] := by
  split_ifs with h
  · refine List.filter_eq_self.2 fun c hc => ?_
    simpa using (kind_of_mem_shared hc).trans h
  · refine List.filter_eq_nil_iff.2 fun c hc => ?_
    simpa [kind_of_mem_shared hc] using h

/-- Nothing is reported exactly if no name occurs twice. -/
theorem shared_eq_nil_iff (kind : CollisionKind) :
    shared kind pairs = [] ↔ (pairs.map (·.1)).Nodup := by
  rw [List.nodup_iff_count_le_one, List.eq_nil_iff_forall_not_mem]
  constructor
  · intro h name
    by_contra hcount
    exact h ⟨kind, name, ownersOf name pairs⟩ (mem_shared.2 ⟨rfl, Nat.lt_of_not_le hcount⟩)
  · intro h c hc
    have hcount := (mem_shared.1 hc).2
    have hle := h c.name
    omega

end Collision

/-! ## Members -/

namespace Page

variable (p : Page)

/-- The properties of the class of a page. -/
def fieldNames : List String := (Component.stateFields p.components).map (·.name)

/-- The methods of the class of a page. -/
def methodNames : List String := (Component.handlers p.components).map (·.method)

/-- The members of the class of a page, in the order they are written in. -/
def memberNames : List String := p.fieldNames ++ p.methodNames

/-- The properties with the components they are for. -/
def fieldOwners : List (String × String) :=
  p.nodes.filterMap fun a => a.stateField?.map fun f => (f.name, a.id)

/-- The methods with the components they are for. -/
def methodOwners : List (String × String) :=
  p.nodes.filterMap fun a => a.handler?.map fun h => (h.method, h.nodeId)

theorem map_fieldOwners : p.fieldOwners.map (·.1) = p.fieldNames := by
  rw [fieldOwners, fieldNames, Component.stateFields, List.map_filterMap, List.map_filterMap]
  simp only [Option.map_map]
  rfl

theorem map_methodOwners : p.methodOwners.map (·.1) = p.methodNames := by
  rw [methodOwners, methodNames, Component.handlers, List.map_filterMap, List.map_filterMap]
  simp only [Option.map_map]
  rfl

/-- The properties that are reported are those that several components share. -/
theorem filter_collisions_state :
    p.collisions.filter (fun c => c.kind = .state) = Collision.shared .state p.fieldOwners := by
  simp [collisions, Collision.filter_shared, fieldOwners]

/-- The methods that are reported are those that several components share. -/
theorem filter_collisions_handler :
    p.collisions.filter (fun c => c.kind = .handler) =
      Collision.shared .handler p.methodOwners := by
  simp [collisions, Collision.filter_shared, methodOwners]

/-- No kind of collision is reported exactly if nothing of that kind is left. -/
theorem forall_kind_ne_iff (kind : CollisionKind) :
    (∀ c ∈ p.collisions, c.kind ≠ kind) ↔ p.collisions.filter (fun c => c.kind = kind) = [] := by
  rw [List.filter_eq_nil_iff]
  simp only [decide_eq_true_eq]

/-- **The members of a page class have distinct names exactly if no property
    and no method is reported and no property has the name of a method.** -/
theorem memberNames_nodup_iff :
    p.memberNames.Nodup ↔
      (∀ c ∈ p.collisions, c.kind ≠ .state ∧ c.kind ≠ .handler) ∧
      ∀ a ∈ p.nodes, ∀ b ∈ p.nodes, ∀ f ∈ a.stateField?, ∀ h ∈ b.handler?, f.name ≠ h.method := by
  have hreport : (∀ c ∈ p.collisions, c.kind ≠ .state ∧ c.kind ≠ .handler) ↔
      p.fieldNames.Nodup ∧ p.methodNames.Nodup := by
    rw [← map_fieldOwners, ← map_methodOwners,
      ← Collision.shared_eq_nil_iff .state, ← filter_collisions_state,
      ← Collision.shared_eq_nil_iff .handler, ← filter_collisions_handler,
      ← forall_kind_ne_iff, ← forall_kind_ne_iff]
    exact forall₂_and
  have hcross : (∀ m ∈ p.fieldNames, ∀ n ∈ p.methodNames, m ≠ n) ↔
      ∀ a ∈ p.nodes, ∀ b ∈ p.nodes, ∀ f ∈ a.stateField?, ∀ h ∈ b.handler?,
        f.name ≠ h.method := by
    simp only [fieldNames, methodNames, Component.stateFields, Component.handlers,
      List.forall_mem_map, List.mem_filterMap]
    constructor
    · intro h a ha b hb f hf g hg
      exact h f ⟨a, ha, hf⟩ g ⟨b, hb, hg⟩
    · rintro h f ⟨a, ha, hf⟩ g ⟨b, hb, hg⟩
      exact h a ha b hb f hf g hg
  rw [memberNames, List.nodup_append, hreport, ← hcross, and_assoc]

/-- A page with an input and a button whose action is the name of the property
    that the input is bound to. -/
def clashing : Page where
  name := "p"
  components :=
    [.node { kind := .input, id := "x" } [],
      .node { kind := .button, id := "b", action := some "xModel()" } []]

/-- Nothing is reported of a page whose class has two members of one name. -/
theorem memberNames_clash_unreported :
    clashing.collisions = [] ∧ ¬clashing.memberNames.Nodup := by
  decide

end Page

end Pagewright
