/-
  What a collision report says.

  * `Collision.filter_shared_name`: a name is reported once, with all its owners,
    exactly if it occurs more than once;
  * `Collision.pairwise_shared`: names are reported in the order in which they
    first occur;
  * `Page.owners`: the names that the components of a page produce, each with the
    id of its component; they are the names that are emitted (`map_owners`);
  * `Page.collisions_spec`: the report of a page, entry by entry.
-/
import Pagewright.Proofs.Page.Members

namespace Pagewright

/-! ## First occurrences -/

section FirstOccurrences

variable {α : Type} [BEq α] [LawfulBEq α]

/-- What is left out of a list does not change which of two others comes first. -/
theorem idxOf_lt_of_filter {p : α → Bool} {a b : α} (ha : p a) (hb : p b) {l : List α}
    (h : (l.filter p).idxOf a < (l.filter p).idxOf b) : l.idxOf a < l.idxOf b := by
  induction l with
  | nil => exact h
  | cons c l ih =>
    by_cases hc : p c
    · rw [List.filter_cons_of_pos hc] at h
      by_cases hca : c = a
      · subst hca
        have hcb : c ≠ b := by
          rintro rfl
          exact Nat.lt_irrefl _ h
        rw [List.idxOf_cons_self, List.idxOf_cons_ne _ hcb]
        exact Nat.succ_pos _
      · have hcb : c ≠ b := by
          rintro rfl
          rw [List.idxOf_cons_self] at h
          exact Nat.not_lt_zero _ h
        rw [List.idxOf_cons_ne _ hca, List.idxOf_cons_ne _ hcb] at h ⊢
        exact Nat.succ_lt_succ (ih (Nat.lt_of_succ_lt_succ h))
    · have hca : c ≠ a := by
        rintro rfl
        exact hc ha
      have hcb : c ≠ b := by
        rintro rfl
        exact hc hb
      rw [List.filter_cons_of_neg hc] at h
      rw [List.idxOf_cons_ne _ hca, List.idxOf_cons_ne _ hcb]
      exact Nat.succ_lt_succ (ih h)

/-- Without repetitions, the elements of a list stand in the order of their first occurrences. -/
theorem pairwise_eraseDups (l : List α) :
    l.eraseDups.Pairwise fun a b => l.idxOf a < l.idxOf b := by
  induction hn : l.length using Nat.strongRecOn generalizing l with
  | ind n ih =>
    cases l with
    | nil => exact List.Pairwise.nil
    | cons a l =>
      have hlength : (l.filter fun b => !b == a).length < n :=
        hn ▸ Nat.lt_succ_of_le (List.length_filter_le _ _)
      have hrest := ih _ hlength _ rfl
      have hne : ∀ b ∈ (l.filter fun b => !b == a).eraseDups, (!b == a) = true := fun b hb =>
        (List.mem_filter.1 (List.mem_eraseDups.1 hb)).2
      rw [List.eraseDups_cons, List.pairwise_cons]
      constructor
      · intro b hb
        have hba : a ≠ b := by
          rintro rfl
          simpa using hne _ hb
        rw [List.idxOf_cons_self, List.idxOf_cons_ne _ hba]
        exact Nat.succ_pos _
      · refine hrest.imp_of_mem fun {b c} hb hc h => ?_
        have hb' := hne b hb
        have hc' := hne c hc
        have hba : a ≠ b := by
          rintro rfl
          simp at hb'
        have hca : a ≠ c := by
          rintro rfl
          simp at hc'
        rw [List.idxOf_cons_ne _ hba, List.idxOf_cons_ne _ hca]
        exact Nat.succ_lt_succ (idxOf_lt_of_filter (p := fun b => !b == a) hb' hc' h)

theorem nodup_eraseDups (l : List α) : l.eraseDups.Nodup := by
  refine (pairwise_eraseDups l).imp fun {a b} h => ?_
  rintro rfl
  exact Nat.lt_irrefl _ h

end FirstOccurrences

/-! ## Shared names -/

namespace Collision

variable {kind : CollisionKind} {pairs : List (String × String)}

/-- A name is reported once and with all its owners if it occurs more than once, and otherwise
    not at all. -/
theorem filter_shared_name (name : String) :
    (shared kind pairs).filter (fun c => c.name = name) =
      if 1 < (pairs.map (·.1)).count name then [⟨kind, name, ownersOf name pairs⟩] else [] := by
  have hnames : (pairs.map (·.1)).eraseDups.filter (fun n => n = name) =
      if name ∈ pairs.map (·.1) then [name] else [] := by
    rw [List.filter_eq, (nodup_eraseDups _).count]
    simp only [List.mem_eraseDups]
    split_ifs <;> rfl
  have hcandidates : ((pairs.map (·.1)).eraseDups.map fun n =>
      (⟨kind, n, ownersOf n pairs⟩ : Collision)).filter (fun c => c.name = name) =
        if name ∈ pairs.map (·.1) then [⟨kind, name, ownersOf name pairs⟩] else [] := by
    rw [List.filter_map]
    simp only [Function.comp_def, hnames]
    split_ifs <;> rfl
  have hlength := length_ownersOf name pairs
  rw [shared, List.filter_filter]
  simp only [Bool.and_comm (decide (Collision.name _ = name))]
  rw [← List.filter_filter, hcandidates]
  by_cases hcount : 1 < (pairs.map (·.1)).count name
  · have hmem : name ∈ pairs.map (·.1) := List.count_pos_iff.1 (Nat.lt_of_succ_lt hcount)
    rw [if_pos hmem, if_pos hcount]
    exact List.filter_cons_of_pos (by simp [hlength, hcount])
  · rw [if_neg hcount]
    split_ifs
    · exact List.filter_cons_of_neg (by simp [hlength, hcount])
    · rfl

/-- Names are reported in the order in which they first occur. -/
theorem pairwise_shared :
    (shared kind pairs).Pairwise fun c d =>
      (pairs.map (·.1)).idxOf c.name < (pairs.map (·.1)).idxOf d.name := by
  refine List.Pairwise.filter _ ?_
  rw [List.pairwise_map]
  exact pairwise_eraseDups (pairs.map (·.1))

end Collision

/-- The place of a kind of collision in a report. -/
def CollisionKind.rank : CollisionKind → Nat
  | id => 0
  | state => 1
  | handler => 2
  | route => 3

/-! ## Names of components -/

/-- The name that a component produces, among those that may collide in one way. -/
def Attributes.nameUnder? (kind : CollisionKind) (a : Attributes) : Option String :=
  match kind with
  | .id => some a.id
  | .state => a.stateField?.map (·.name)
  | .handler => a.handler?.map (·.method)
  | .route => none

namespace Page

variable (p : Page)

/-- The names of a page that may collide in one way, as they are emitted: the ids of all
    components, the properties and the methods of the class. -/
def namesUnder : CollisionKind → List String
  | .id => p.nodes.map (·.id)
  | .state => p.fieldNames
  | .handler => p.methodNames
  | .route => []

/-- The names that the components of a page produce, each with the id of its component. -/
def owners (kind : CollisionKind) : List (String × String) :=
  p.nodes.filterMap fun a => (a.nameUnder? kind).map fun name => (name, a.id)

theorem ownersOf_owners (kind : CollisionKind) (name : String) :
    Collision.ownersOf name (p.owners kind) =
      (p.nodes.filter fun a => a.nameUnder? kind = some name).map (·.id) := by
  rw [Collision.ownersOf, owners]
  induction p.nodes with
  | nil => rfl
  | cons a as ih =>
    cases hname : a.nameUnder? kind with
    | none =>
      rw [List.filterMap_cons_none (by rw [hname]; rfl), List.filter_cons_of_neg (by simp [hname]),
        ih]
    | some n =>
      rw [List.filterMap_cons_some (by rw [hname]; rfl)]
      by_cases hn : n = name
      · rw [List.filter_cons_of_pos (by simpa using hn),
          List.filter_cons_of_pos (by simp [hname, hn]), List.map_cons, List.map_cons, ih]
      · rw [List.filter_cons_of_neg (by simpa using hn),
          List.filter_cons_of_neg (by simp [hname, hn]), ih]

theorem owners_state : p.owners .state = p.fieldOwners := by
  simp only [owners, fieldOwners, Attributes.nameUnder?, Option.map_map, Function.comp_def]

theorem owners_handler : p.owners .handler = p.methodOwners := by
  simp only [owners, methodOwners, Attributes.nameUnder?, Attributes.handler?, Option.map_map,
    Function.comp_def]

/-- No name is lost, repeated or moved between the report and what is emitted. -/
theorem map_owners (kind : CollisionKind) : (p.owners kind).map (·.1) = p.namesUnder kind := by
  cases kind with
  | id => simp [owners, namesUnder, Attributes.nameUnder?]
  | state => rw [owners_state, map_fieldOwners, namesUnder]
  | handler => rw [owners_handler, map_methodOwners, namesUnder]
  | route => simp [owners, namesUnder, Attributes.nameUnder?]

theorem collisions_eq :
    p.collisions = Collision.shared .id (p.owners .id) ++
      Collision.shared .state (p.owners .state) ++
      Collision.shared .handler (p.owners .handler) := by
  have hids : p.owners .id = p.nodes.map fun a => (a.id, a.id) := by
    simp [owners, Attributes.nameUnder?]
  rw [hids, owners_state, owners_handler]
  rfl

/-- The entries of one kind. -/
theorem filter_collisions (kind : CollisionKind) :
    p.collisions.filter (fun c => c.kind = kind) = Collision.shared kind (p.owners kind) := by
  simp only [collisions_eq, List.filter_append, Collision.filter_shared]
  cases kind with
  | id => simp
  | state => simp
  | handler => simp
  | route => simp [owners, Attributes.nameUnder?, Collision.shared]

/-- Ids come first, then properties, then methods, each in the order of the first occurrence. -/
theorem pairwise_collisions :
    p.collisions.Pairwise fun c d =>
      c.kind.rank < d.kind.rank ∨
        c.kind = d.kind ∧
          (p.namesUnder c.kind).idxOf c.name < (p.namesUnder d.kind).idxOf d.name := by
  have hwithin : ∀ kind, (Collision.shared kind (p.owners kind)).Pairwise fun c d =>
      c.kind.rank < d.kind.rank ∨
        c.kind = d.kind ∧
          (p.namesUnder c.kind).idxOf c.name < (p.namesUnder d.kind).idxOf d.name := by
    intro kind
    refine Collision.pairwise_shared.imp_of_mem fun {c d} hc hd h => ?_
    rw [Collision.kind_of_mem_shared hc, Collision.kind_of_mem_shared hd, ← p.map_owners kind]
    exact Or.inr ⟨rfl, h⟩
  have hbetween : ∀ kind kind' : CollisionKind, kind.rank < kind'.rank →
      ∀ c ∈ Collision.shared kind (p.owners kind), ∀ d ∈ Collision.shared kind' (p.owners kind'),
        c.kind.rank < d.kind.rank := by
    intro kind kind' hrank c hc d hd
    rwa [Collision.kind_of_mem_shared hc, Collision.kind_of_mem_shared hd]
  rw [collisions_eq, List.pairwise_append, List.pairwise_append]
  refine ⟨⟨hwithin .id, hwithin .state, fun c hc d hd => Or.inl ?_⟩, hwithin .handler,
    fun c hc d hd => Or.inl ?_⟩
  · exact hbetween .id .state (by decide) c hc d hd
  · rcases List.mem_append.1 hc with hc | hc
    · exact hbetween .id .handler (by decide) c hc d hd
    · exact hbetween .state .handler (by decide) c hc d hd

/-- **A report says of each name what the components of a page make of it.** -/
theorem collisions_spec :
    (∀ (kind : CollisionKind) (name : String),
      p.collisions.filter (fun c => c.kind = kind ∧ c.name = name) =
        if 1 < (p.namesUnder kind).count name then
          [⟨kind, name, (p.nodes.filter fun a => a.nameUnder? kind = some name).map (·.id)⟩]
        else []) ∧
    p.collisions.Pairwise fun c d =>
      c.kind.rank < d.kind.rank ∨
        c.kind = d.kind ∧
          (p.namesUnder c.kind).idxOf c.name < (p.namesUnder d.kind).idxOf d.name := by
  refine ⟨fun kind name => ?_, p.pairwise_collisions⟩
  have hsplit : p.collisions.filter (fun c => c.kind = kind ∧ c.name = name) =
      (p.collisions.filter fun c => c.kind = kind).filter fun c => c.name = name := by
    rw [List.filter_filter]
    simp only [Bool.decide_and, Bool.and_comm]
  rw [hsplit, filter_collisions, Collision.filter_shared_name, map_owners, ownersOf_owners]

end Page

end Pagewright
