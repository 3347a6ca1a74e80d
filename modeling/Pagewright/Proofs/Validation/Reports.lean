/-
  Where issues about components lead to.

  * `Page.emptyFields`: the fields without which a component cannot be
    compiled, wherever they are empty, in reading order;
  * `follow`: the component and the field that a path leads to;
  * `validate_spec`: exactly the well-formed pages are accepted, and the issues
    about components lead to the empty fields, one issue to each.
-/
import Pagewright.Proofs.Validation.Acceptance
import Pagewright.Proofs.Validation.Paths

namespace Pagewright

/-! ## Empty fields -/

/-- The fields without which a component cannot be compiled. -/
inductive NodeField where
  | type
  | id
  deriving DecidableEq

namespace NodeField

/-- The label of a field. -/
def label : NodeField → String
  | type => "type"
  | id => "id"

/-- The field with a label. -/
def ofLabel? (s : String) : Option NodeField :=
  if s = "type" then some type else if s = "id" then some id else none

/-- The text in a field. -/
def value (a : Attributes) : NodeField → String
  | type => a.kind.tag
  | id => a.id

/-- The code of the issue that reports a field as empty. -/
def code : NodeField → String
  | type => "E-NODE-TYPE"
  | id => "E-NODE-ID"

end NodeField

/-- A field of a component at a place. -/
structure Spot where
  place : Place
  attrs : Attributes
  field : NodeField

/-- The path of a field. -/
def Spot.path (s : Spot) : String := s.place.path ++ "." ++ s.field.label

/-- The empty fields of a component, the type before the id. -/
def Attributes.emptyFields (a : Attributes) : List NodeField :=
  [.type, .id].filter fun f => f.value a = ""

namespace Page

/-- The empty fields of all components of pages, in reading order. -/
def emptyFields (ps : List Page) : List Spot :=
  (placed ps).flatMap fun x => x.2.emptyFields.map fun f => ⟨x.1, x.2, f⟩

/-- The component and the field that a path leads to. -/
def follow (ps : List Page) (path : String) : Option Spot := do
  let (place, label) ← Place.read path
  let field ← NodeField.ofLabel? label
  let attrs ← attrsAt? ps place
  some ⟨place, attrs, field⟩

end Page

/-! ## Issues about components -/

/-- Whether an issue is about a component. -/
def Issue.isAboutNode (i : Issue) : Bool := i.code = "E-NODE-TYPE" || i.code = "E-NODE-ID"

/-- The code and the path of an issue. -/
def Issue.site (i : Issue) : String × String := (i.code, i.path)

/-- The code and the path with which an empty field is reported. -/
def Spot.site (s : Spot) : String × String := (s.field.code, s.path)

/-- What the findings about a component say of its empty fields. -/
theorem Attributes.map_findings (pageName : String) (place : Place) (a : Attributes) :
    (a.findings pageName place).map (fun f => f.issue.site) =
      a.emptyFields.map fun f => Spot.site ⟨place, a, f⟩ := by
  unfold findings emptyFields
  by_cases ht : a.kind.tag = "" <;> by_cases hi : a.id = "" <;>
    simp [ht, hi, NodeField.value, Finding.issue, Issue.site, Spot.site, Spot.path,
      NodeField.code, NodeField.label, String.append_assoc]

theorem Attributes.isAboutNode_of_mem_findings {pageName : String} {place : Place}
    {a : Attributes} {f : Finding} (h : f ∈ a.findings pageName place) :
    f.issue.isAboutNode := by
  rw [findings, List.mem_append] at h
  rcases h with h | h
  · split_ifs at h
    · obtain rfl := List.mem_singleton.1 h
      rfl
    · exact absurd h List.not_mem_nil
  · split_ifs at h
    · obtain rfl := List.mem_singleton.1 h
      rfl
    · exact absurd h List.not_mem_nil

theorem not_isAboutNode_of_mem_nameFindings {claims : Claims} {page : Claimant} {f : Finding}
    (h : f ∈ nameFindings claims page) : ¬f.issue.isAboutNode := by
  rw [nameFindings, List.mem_append] at h
  rcases h with h | h
  · obtain ⟨fault, -, rfl⟩ := Option.map_eq_some_iff.1 (Option.mem_toList.1 h)
    simp [Finding.issue, Issue.isAboutNode]
  · split_ifs at h
    · exact absurd h List.not_mem_nil
    · obtain ⟨clash, -, rfl⟩ := Option.map_eq_some_iff.1 (Option.mem_toList.1 h)
      simp [Finding.issue, Issue.isAboutNode]

namespace Page

/-- The issues about components. -/
def nodeIssues (ps : List Page) : List Issue := (validate ps).filter Issue.isAboutNode

theorem isAboutNode_of_mem_componentFindings {index : Nat} {p : Page} {f : Finding}
    (h : f ∈ p.componentFindings index) : f.issue.isAboutNode := by
  rw [componentFindings_eq_flatMap] at h
  obtain ⟨x, -, h⟩ := List.mem_flatMap.1 h
  exact Attributes.isAboutNode_of_mem_findings h

/-- Of all findings, those about components are left. -/
theorem filter_findingsFrom (index : Nat) (claims : Claims) (ps : List Page) :
    (findingsFrom index claims ps).filter (·.issue.isAboutNode) =
      (ps.zipIdx index).flatMap fun x => x.1.componentFindings x.2 := by
  induction ps generalizing index claims with
  | nil => rfl
  | cons p ps ih =>
    have hname := List.filter_eq_nil_iff.2 fun f (hf : f ∈ nameFindings claims ⟨index, p.name⟩) =>
      not_isAboutNode_of_mem_nameFindings hf
    have hcomponents := List.filter_eq_self.2 fun f (hf : f ∈ p.componentFindings index) =>
      isAboutNode_of_mem_componentFindings hf
    simp only [findingsFrom, List.filter_append, List.zipIdx_cons, List.flatMap_cons]
    rw [hname, hcomponents, ih, List.nil_append]

/-- The issues about components report the empty fields, in reading order. -/
theorem site_nodeIssues (ps : List Page) :
    (nodeIssues ps).map Issue.site = (emptyFields ps).map Spot.site := by
  have hpage : ∀ x ∈ ps.zipIdx, (x.1.componentFindings x.2).map (fun f => f.issue.site) =
      (x.1.placedOn x.2).flatMap fun y => y.2.emptyFields.map fun f => Spot.site ⟨y.1, y.2, f⟩ := by
    intro x _
    rw [componentFindings_eq_flatMap, List.map_flatMap]
    exact List.flatMap_congr fun y _ => y.2.map_findings x.1.name y.1
  have hnode : nodeIssues ps =
      ((findings ps).filter (·.issue.isAboutNode)).map Finding.issue := by
    rw [nodeIssues, validate, List.filter_map]
    rfl
  rw [hnode, findings, filter_findingsFrom, List.map_map, List.map_flatMap]
  rw [emptyFields, placed, List.flatMap_assoc, List.map_flatMap]
  refine List.flatMap_congr fun x hx => (hpage x hx).trans ?_
  simp only [List.map_flatMap, List.map_map]
  rfl

/-! ## Following paths -/

/-- The path of an empty field leads back to it. -/
theorem follow_path {ps : List Page} {s : Spot} (h : s ∈ emptyFields ps) :
    follow ps s.path = some s := by
  obtain ⟨⟨place, a⟩, hplaced, h⟩ := List.mem_flatMap.1 h
  obtain ⟨field, -, rfl⟩ := List.mem_map.1 h
  have hdot : '.' ∉ field.label.toList := by cases field <;> decide
  have hlabel : NodeField.ofLabel? field.label = some field := by cases field <;> rfl
  have hread := Place.read_path place hdot
  have hattrs := attrsAt_of_mem_placed hplaced
  simp only [follow, Spot.path, hread, hlabel, hattrs, Option.bind_eq_bind, Option.bind_some]

/-- No field is listed twice. -/
theorem emptyFields_nodup (ps : List Page) : (emptyFields ps).Nodup := by
  have hplaces := List.pairwise_map.1 (places_nodup ps)
  refine List.nodup_flatMap.2 ⟨fun x _ => ?_, hplaces.imp fun {x y} hne => ?_⟩
  · have hfields : x.2.emptyFields.Nodup := (by decide : [NodeField.type, .id].Nodup).filter _
    exact hfields.map fun f g h => (Spot.mk.inj h).2.2
  · intro s hx hy
    obtain ⟨f, -, rfl⟩ := List.mem_map.1 hx
    obtain ⟨g, -, h⟩ := List.mem_map.1 hy
    exact hne (Spot.mk.inj h).1.symm

/-- Every component that is walked through has its empty fields listed. -/
theorem emptyFields_attrs (ps : List Page) :
    (emptyFields ps).map (fun s => (s.attrs, s.field)) =
      (ps.flatMap nodes).flatMap fun a => a.emptyFields.map fun f => (a, f) := by
  rw [← placed_attrs, List.flatMap_map, emptyFields, List.map_flatMap]
  simp only [List.map_map]
  rfl

/-- **Exactly the well-formed pages are accepted, and every empty field is
    located.**  The issues about components report the empty fields of all
    components in reading order, and their paths lead to these fields. -/
theorem validate_spec (ps : List Page) :
    (validate ps = [] ↔ WellFormed ps) ∧
    (emptyFields ps).map (fun s => (s.attrs, s.field)) =
      (ps.flatMap nodes).flatMap (fun a => a.emptyFields.map fun f => (a, f)) ∧
    (nodeIssues ps).map (fun i => (i.code, follow ps i.path)) =
      (emptyFields ps).map (fun s => (s.field.code, some s)) ∧
    ((nodeIssues ps).map Issue.path).Nodup := by
  have hsites := site_nodeIssues ps
  have hpaths : (nodeIssues ps).map Issue.path = (emptyFields ps).map Spot.path := by
    have h := congrArg (List.map Prod.snd) hsites
    rwa [List.map_map, List.map_map] at h
  refine ⟨validate_eq_nil_iff ps, emptyFields_attrs ps, ?_, ?_⟩
  · have h := congrArg (List.map fun x => (x.1, follow ps x.2)) hsites
    rw [List.map_map, List.map_map] at h
    refine h.trans (List.map_congr_left fun s hs => ?_)
    exact Prod.ext rfl (follow_path hs)
  · rw [hpaths]
    refine (emptyFields_nodup ps).map_on fun s hs t ht h => ?_
    exact Option.some.inj ((follow_path hs).symm.trans (h ▸ follow_path ht))

end Page

end Pagewright
