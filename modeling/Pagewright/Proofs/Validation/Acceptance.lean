/-
  Which pages are accepted.

  * `Page.WellFormed`: every name is a page name, no two pages share a name, a
    class or an element, and every component has an id and a kind;
  * `Claims.Hold`: what has been claimed after some pages, which is the
    invariant of the check;
  * `validate_eq_nil_iff`: the check reports nothing exactly if the pages are
    well formed.
-/
import Pagewright.Proofs.Validation.Places

namespace Pagewright

/-! ## Page names -/

/-- The letters of a page name. -/
def IsLetter (c : Char) : Prop := ('A' ≤ c ∧ c ≤ 'Z') ∨ ('a' ≤ c ∧ c ≤ 'z')

/-- The characters of a page name. -/
def IsNameChar (c : Char) : Prop := IsLetter c ∨ ('0' ≤ c ∧ c ≤ '9') ∨ c = '_' ∨ c = '-'

/-- A page name: `[A-Za-z][A-Za-z0-9_-]*`. -/
def IsPageName (s : String) : Prop :=
  ∃ c cs, s.toList = c :: cs ∧ IsLetter c ∧ ∀ d ∈ cs, IsNameChar d

theorem isAlpha_iff (c : Char) : c.isAlpha ↔ IsLetter c := by
  have halpha : c.isAlpha =
    (decide ('A' ≤ c ∧ c ≤ 'Z') || decide ('a' ≤ c) && decide (c ≤ 'z')) := rfl
  rw [halpha, IsLetter, Bool.or_eq_true, Bool.and_eq_true]
  simp only [decide_eq_true_eq]

theorem isPageNameChar_iff (c : Char) : isPageNameChar c ↔ IsNameChar c := by
  have hdigit : c.isDigit ↔ '0' ≤ c ∧ c ≤ '9' := by
    simp only [Char.isDigit, Bool.and_eq_true, decide_eq_true_eq]
    rfl
  simp only [isPageNameChar, Char.isAlphanum, IsNameChar, Bool.or_eq_true, beq_iff_eq,
    isAlpha_iff, hdigit]
  tauto

theorem IsLetter.isNameChar {c : Char} (h : IsLetter c) : IsNameChar c := Or.inl h

/-- A name is refused exactly if it is not a page name. -/
theorem nameFault?_eq_none_iff (name : String) : nameFault? name = none ↔ IsPageName name := by
  unfold nameFault? IsPageName
  cases name.toList with
  | nil => simp
  | cons c cs =>
    have hchars : (!(c :: cs).all isPageNameChar) = true ↔
        ¬(IsNameChar c ∧ ∀ d ∈ cs, IsNameChar d) := by
      rw [Bool.not_eq_true', ← Bool.not_eq_true, List.all_eq_true, List.forall_mem_cons]
      simp only [isPageNameChar_iff]
    have hstart : (!c.isAlpha) = true ↔ ¬IsLetter c := by
      rw [Bool.not_eq_true', ← Bool.not_eq_true, isAlpha_iff]
    dsimp only
    constructor
    · intro h
      split_ifs at h with h₁ h₂
      rw [hchars, not_not] at h₁
      rw [hstart, not_not] at h₂
      exact ⟨c, cs, rfl, h₂, h₁.2⟩
    · rintro ⟨c', cs', heq, hc, hcs⟩
      obtain ⟨rfl, rfl⟩ := List.cons.inj heq
      rw [if_neg fun h => hchars.1 h ⟨hc.isNameChar, hcs⟩, if_neg fun h => hstart.1 h hc]

theorem IsPageName.ne_empty {name : String} (h : IsPageName name) : name ≠ "" := by
  rintro rfl
  obtain ⟨c, cs, hcs, -⟩ := h
  simp at hcs

/-! ## Claims -/

/-- Two names under which pages can be emitted side by side. -/
def Distinct (m n : String) : Prop :=
  m ≠ n ∧ Page.className m ≠ Page.className n ∧ Page.selector m ≠ Page.selector n

namespace Claims

theorem lookup_record (key : String) (page : Claimant) (claims : List (String × Claimant))
    (k : String) :
    (record key page claims).lookup k =
      (claims.lookup k).or (if key = k then some page else none) := by
  unfold record
  split_ifs with hkey hk hk
  · subst hk
    rw [Option.or_of_isSome hkey]
  · rw [Option.or_none]
  · subst hk
    simp [List.lookup_append]
  · have hne : (k == key) = false := by simpa using Ne.symm hk
    simp [List.lookup_append, List.lookup_cons, hne]

/-- What has been claimed once some pages have claimed all they are emitted
    under: each thing belongs to the first page that is emitted under it. -/
structure Hold (claims : Claims) (earlier : List Claimant) : Prop where
  names : ∀ k, claims.names.lookup k = earlier.find? fun c => c.name = k
  classNames : ∀ k, claims.classNames.lookup k = earlier.find? fun c => Page.className c.name = k
  selectors : ∀ k, claims.selectors.lookup k = earlier.find? fun c => Page.selector c.name = k

variable {claims : Claims} {earlier : List Claimant}

theorem hold_nil : Hold {} [] := ⟨fun _ => rfl, fun _ => rfl, fun _ => rfl⟩

theorem Hold.add (h : claims.Hold earlier) (page : Claimant) :
    (claims.add page).Hold (earlier ++ [page]) where
  names k := by simp [Claims.add, lookup_record, h.names, List.find?_append, List.find?_singleton]
  classNames k := by
    simp [Claims.add, lookup_record, h.classNames, List.find?_append, List.find?_singleton]
  selectors k := by
    simp [Claims.add, lookup_record, h.selectors, List.find?_append, List.find?_singleton]

/-- A name clashes with nothing exactly if it is distinct from all earlier
    names. -/
theorem Hold.clash?_eq_none_iff (h : claims.Hold earlier) (name : String) :
    claims.clash? name = none ↔ ∀ c ∈ earlier, Distinct c.name name := by
  have hlookup : claims.clash? name = none ↔ claims.names.lookup name = none ∧
      claims.classNames.lookup (Page.className name) = none ∧
      claims.selectors.lookup (Page.selector name) = none := by
    unfold clash?
    cases claims.names.lookup name <;>
      cases claims.classNames.lookup (Page.className name) <;> simp
  rw [hlookup, h.names, h.classNames, h.selectors]
  simp only [List.find?_eq_none, decide_eq_true_eq, Distinct]
  constructor
  · rintro ⟨hn, hc, hs⟩ c hmem
    exact ⟨hn c hmem, hc c hmem, hs c hmem⟩
  · intro hd
    exact ⟨fun c hmem => (hd c hmem).1, fun c hmem => (hd c hmem).2.1,
      fun c hmem => (hd c hmem).2.2⟩

end Claims

theorem nameFindings_eq_nil_iff {claims : Claims} {earlier : List Claimant}
    (h : claims.Hold earlier) (page : Claimant) :
    nameFindings claims page = [] ↔
      IsPageName page.name ∧ ∀ c ∈ earlier, Distinct c.name page.name := by
  rw [nameFindings, List.append_eq_nil_iff, Option.toList_eq_nil_iff, Option.map_eq_none_iff,
    nameFault?_eq_none_iff]
  refine and_congr_right fun hname => ?_
  rw [if_neg hname.ne_empty, Option.toList_eq_nil_iff, Option.map_eq_none_iff,
    h.clash?_eq_none_iff]

/-! ## Components -/

/-- A component that says what it is and which one it is. -/
def Attributes.Complete (a : Attributes) : Prop := a.id ≠ "" ∧ a.kind.tag ≠ ""

theorem Attributes.findings_eq_nil_iff (pageName : String) (place : Place) (a : Attributes) :
    a.findings pageName place = [] ↔ a.Complete := by
  unfold findings Complete
  split_ifs <;> simp_all

namespace Component

theorem childFindings_eq_flatMap (pageName : String) (place : Place) (cs : List Component)
    (k : Nat) :
    childFindings pageName place k cs =
      (cs.zipIdx k).flatMap fun x => x.1.findings pageName (place.child x.2) := by
  induction cs generalizing k with
  | nil => rfl
  | cons c cs ih => rw [childFindings, ih, List.zipIdx_cons, List.flatMap_cons]

/-- The findings about a tree are those about its components, in their order. -/
theorem findings_eq_flatMap (pageName : String) (place : Place) (c : Component) :
    c.findings pageName place =
      (c.placed place).flatMap fun x => x.2.findings pageName x.1 := by
  induction c generalizing place with
  | node a cs ih =>
    rw [findings, childFindings_eq_flatMap, placed_node, List.flatMap_cons, List.flatMap_assoc]
    rw [List.flatMap_congr fun x hx => ih x.1 (List.fst_mem_of_mem_zipIdx hx) _]

end Component

namespace Page

theorem componentFindings_eq_flatMap (index : Nat) (p : Page) :
    p.componentFindings index = (p.placedOn index).flatMap fun x => x.2.findings p.name x.1 := by
  rw [componentFindings, List.mapIdx_eq_zipIdx_map, ← List.flatMap_def, placedOn,
    List.flatMap_assoc]
  exact List.flatMap_congr fun x _ => x.1.findings_eq_flatMap p.name _

theorem componentFindings_eq_nil_iff (index : Nat) (p : Page) :
    p.componentFindings index = [] ↔ ∀ a ∈ p.nodes, a.Complete := by
  rw [componentFindings_eq_flatMap, List.flatMap_eq_nil_iff, ← p.map_snd_placedOn index,
    List.forall_mem_map]
  simp only [Attributes.findings_eq_nil_iff]

/-! ## Pages -/

/-- Pages that can be compiled. -/
structure WellFormed (ps : List Page) : Prop where
  names : ∀ p ∈ ps, IsPageName p.name
  distinct_names : (ps.map name).Nodup
  distinct_classNames : (ps.map fun p => className p.name).Nodup
  distinct_selectors : (ps.map fun p => selector p.name).Nodup
  complete : ∀ p ∈ ps, ∀ a ∈ p.nodes, a.Complete

/-- Whatever has been claimed, pages pass exactly if each is in order, none
    clashes with an earlier one, and no two of them clash. -/
theorem findingsFrom_eq_nil_iff {claims : Claims} {earlier : List Claimant}
    (h : claims.Hold earlier) (index : Nat) (ps : List Page) :
    findingsFrom index claims ps = [] ↔
      (∀ p ∈ ps, IsPageName p.name ∧ ∀ a ∈ p.nodes, a.Complete) ∧
      (∀ p ∈ ps, ∀ c ∈ earlier, Distinct c.name p.name) ∧
      ps.Pairwise fun p q => Distinct p.name q.name := by
  induction ps generalizing claims earlier index with
  | nil => simp [findingsFrom]
  | cons p ps ih =>
    simp only [findingsFrom, List.append_eq_nil_iff, nameFindings_eq_nil_iff h,
      componentFindings_eq_nil_iff]
    constructor
    · rintro ⟨⟨⟨hname, hearlier⟩, hnodes⟩, hrest⟩
      rw [if_neg hname.ne_empty, ih (h.add ⟨index, p.name⟩)] at hrest
      obtain ⟨hpages, hclaims, hpairs⟩ := hrest
      refine ⟨?_, ?_, List.pairwise_cons.2 ⟨fun q hq => ?_, hpairs⟩⟩
      · exact List.forall_mem_cons.2 ⟨⟨hname, hnodes⟩, hpages⟩
      · exact List.forall_mem_cons.2
          ⟨hearlier, fun q hq c hc => hclaims q hq c (List.mem_append_left _ hc)⟩
      · exact hclaims q hq ⟨index, p.name⟩ (by simp)
    · rintro ⟨hpages, hclaims, hpairs⟩
      obtain ⟨⟨hname, hnodes⟩, hpages⟩ := List.forall_mem_cons.1 hpages
      obtain ⟨hearlier, hclaims⟩ := List.forall_mem_cons.1 hclaims
      obtain ⟨hfirst, hpairs⟩ := List.pairwise_cons.1 hpairs
      refine ⟨⟨⟨hname, hearlier⟩, hnodes⟩, ?_⟩
      rw [if_neg hname.ne_empty, ih (h.add ⟨index, p.name⟩)]
      refine ⟨hpages, fun q hq c hc => ?_, hpairs⟩
      rcases List.mem_append.1 hc with hc | hc
      · exact hclaims q hq c hc
      · obtain rfl := List.mem_singleton.1 hc
        exact hfirst q hq

/-- **Pages are accepted exactly if they are well formed.** -/
theorem validate_eq_nil_iff (ps : List Page) : validate ps = [] ↔ WellFormed ps := by
  rw [validate, List.map_eq_nil_iff, findings, findingsFrom_eq_nil_iff Claims.hold_nil]
  constructor
  · rintro ⟨hpages, -, hpairs⟩
    exact
      { names := fun p hp => (hpages p hp).1
        distinct_names := List.pairwise_map.2 (hpairs.imp fun h => h.1)
        distinct_classNames := List.pairwise_map.2 (hpairs.imp fun h => h.2.1)
        distinct_selectors := List.pairwise_map.2 (hpairs.imp fun h => h.2.2)
        complete := fun p hp => (hpages p hp).2 }
  · intro h
    refine ⟨fun p hp => ⟨h.names p hp, h.complete p hp⟩, by simp, ?_⟩
    have hclasses := List.pairwise_map.1 h.distinct_classNames
    have hselectors := List.pairwise_map.1 h.distinct_selectors
    exact (List.pairwise_map.1 h.distinct_names).and (hclasses.and hselectors)

end Page

end Pagewright
