/-
  Pages that are reported as duplicates.

  * `Page.claimants`: the pages that claim what they are emitted under, which are those
    with a name, whatever else is wrong with them;
  * `firstClash`: the first of the three clashes that a name has with claimants, and the
    earliest one it has it with;
  * `filter_findingsFrom_duplicate`: the duplicates in a run of the check are the clashes
    of each page with the claimants before it;
  * `duplicates_spec`: a page is reported exactly if it shares something with an earlier
    one, and it is told about the earliest.
-/
import Pagewright.Proofs.Text.Casing
import Pagewright.Proofs.Validation.Reports

namespace Pagewright

/-! ## What pages share -/

namespace Clash

/-- What a clash compares of two names. -/
def key : Clash → String → String
  | name => id
  | className => Page.className
  | selector => Page.selector

/-- The clashes in the order in which they are looked for. -/
def rank : Clash → Nat
  | name => 0
  | className => 1
  | selector => 2

/-- A page without a name could share its class with one that has a name, such as `-`,
    and nothing else. -/
theorem eq_className_of_key_empty {clash : Clash} {name : String} (hname : name ≠ "")
    (h : clash.key "" = clash.key name) : clash = .className := by
  cases clash with
  | name => exact absurd h.symm hname
  | className => rfl
  | selector =>
    have hkebab : Text.kebab "" = Text.kebab name := String.append_right_inj _ |>.1 h
    exact absurd (Text.kebab_eq_empty_iff.1 (hkebab.symm.trans rfl)) hname

end Clash

/-! ## The first clash -/

/-- The earliest of some claimants that shares something with a name. -/
def earliest (claimants : List Claimant) (clash : Clash) (name : String) : Option Claimant :=
  claimants.find? fun c => clash.key c.name = clash.key name

/-- The first of the three clashes that a name has with claimants, with the earliest one
    it has it with. -/
def firstClash (claimants : List Claimant) (name : String) : Option (Claimant × Clash) :=
  [Clash.name, .className, .selector].findSome? fun clash =>
    (earliest claimants clash name).map (·, clash)

theorem firstClash_eq_some {claimants : List Claimant} {name : String} {first : Claimant}
    {clash : Clash} (h : firstClash claimants name = some (first, clash)) :
    earliest claimants clash name = some first ∧
      ∀ other : Clash, other.rank < clash.rank → earliest claimants other name = none := by
  obtain ⟨before, found, behind, hlist, hfound, hbefore⟩ := List.findSome?_eq_some_iff.1 h
  obtain ⟨c, hc, hpair⟩ := Option.map_eq_some_iff.1 hfound
  obtain ⟨rfl, rfl⟩ := Prod.mk.inj hpair
  refine ⟨hc, fun other hrank => Option.map_eq_none_iff.1 (hbefore other ?_)⟩
  have hranks : ([Clash.name, .className, .selector].map Clash.rank).Pairwise (· < ·) := by decide
  have hmem : other ∈ before ++ found :: behind := by rw [← hlist]; cases other <;> simp
  rw [hlist, List.map_append, List.pairwise_append] at hranks
  rcases List.mem_append.1 hmem with hmem | hmem
  · exact hmem
  · have hrest := List.pairwise_cons.1 (List.map_cons ▸ hranks.2.1)
    rcases List.mem_cons.1 hmem with rfl | hmem
    · exact absurd hrank (Nat.lt_irrefl _)
    · have hlater := hrest.1 _ (List.mem_map_of_mem hmem)
      omega

theorem firstClash_eq_none_iff {claimants : List Claimant} {name : String} :
    firstClash claimants name = none ↔ ∀ clash, earliest claimants clash name = none := by
  simp only [firstClash, List.findSome?_eq_none_iff, Option.map_eq_none_iff]
  exact ⟨fun h clash => h clash (by cases clash <;> simp), fun h clash _ => h clash⟩

/-- The claims that hold after some pages lead to the first clash with them. -/
theorem Claims.Hold.clash?_eq {claims : Claims} {earlier : List Claimant}
    (h : claims.Hold earlier) (name : String) : claims.clash? name = firstClash earlier name := by
  have hnames : claims.names.lookup name = earliest earlier .name name := h.names name
  have hclasses : claims.classNames.lookup (Page.className name) =
      earliest earlier .className name := h.classNames _
  have hselectors : claims.selectors.lookup (Page.selector name) =
      earliest earlier .selector name := h.selectors _
  unfold clash? firstClash
  rw [hnames, hclasses, hselectors]
  simp only [List.findSome?_cons, List.findSome?_nil]
  cases earliest earlier .name name with
  | some first => rfl
  | none =>
    cases earliest earlier .className name with
    | some first => rfl
    | none => cases earliest earlier .selector name <;> rfl

namespace Page

/-! ## Claimants -/

/-- The pages with a name, each with its position; the first page has the position
    `index`. -/
def claimants (index : Nat) : List Page → List Claimant
  | [] => []
  | p :: ps => (if p.name = "" then [] else [⟨index, p.name⟩]) ++ claimants (index + 1) ps

theorem mem_claimants {index : Nat} {ps : List Page} {c : Claimant} :
    c ∈ claimants index ps ↔
      ∃ j q, ps[j]? = some q ∧ q.name ≠ "" ∧ c = ⟨index + j, q.name⟩ := by
  induction ps generalizing index with
  | nil => simp [claimants]
  | cons p ps ih =>
    rw [claimants, List.mem_append, ih]
    constructor
    · rintro (h | ⟨j, q, hq, hname, rfl⟩)
      · split_ifs at h with hname
        · exact absurd h List.not_mem_nil
        · exact ⟨0, p, rfl, hname, List.mem_singleton.1 h⟩
      · exact ⟨j + 1, q, hq, hname, by rw [Nat.add_right_comm, Nat.add_assoc]⟩
    · rintro ⟨j, q, hq, hname, rfl⟩
      cases j with
      | zero =>
        obtain rfl : p = q := Option.some.inj hq
        left
        rw [if_neg hname]
        exact List.mem_singleton.2 rfl
      | succ j => exact Or.inr ⟨j, q, hq, hname, by rw [Nat.add_right_comm, Nat.add_assoc]⟩

/-- Claimants stand in the order of their positions. -/
theorem claimants_pairwise (index : Nat) (ps : List Page) :
    (claimants index ps).Pairwise fun c d => c.index < d.index := by
  induction ps generalizing index with
  | nil => exact List.Pairwise.nil
  | cons p ps ih =>
    rw [claimants]
    split_ifs with hname
    · exact ih (index + 1)
    · refine List.pairwise_cons.2 ⟨fun c hc => ?_, ih (index + 1)⟩
      obtain ⟨j, q, -, -, rfl⟩ := mem_claimants.1 hc
      exact Nat.lt_add_right j (Nat.lt_succ_self index)

/-! ## Duplicates among the findings -/

/-- Whether something is reported as a duplicate. -/
def isDuplicate (issue : Issue) : Bool := issue.code = "E-PAGE-DUP"

/-- The clash of the page at a position with some claimants or with the pages in front of
    it. -/
def duplicate? (earlier : List Claimant) (index : Nat) (ps : List Page) (k : Nat) :
    Option Finding :=
  ps[k]?.bind fun p =>
    if p.name = "" then none
    else (firstClash (earlier ++ claimants index (ps.take k)) p.name).map fun c =>
      .duplicate ⟨index + k, p.name⟩ c.1 c.2

theorem duplicate?_cons_succ (earlier : List Claimant) (index : Nat) (p : Page) (ps : List Page)
    (k : Nat) :
    duplicate? earlier index (p :: ps) (k + 1) =
      duplicate? (earlier ++ if p.name = "" then [] else [⟨index, p.name⟩]) (index + 1) ps k := by
  have hposition : index + (k + 1) = index + 1 + k := by omega
  simp only [duplicate?, List.getElem?_cons_succ, List.take_succ_cons, claimants,
    List.append_assoc, hposition]

theorem filter_nameFindings {claims : Claims} {earlier : List Claimant} (h : claims.Hold earlier)
    (index : Nat) (p : Page) (ps : List Page) :
    (nameFindings claims ⟨index, p.name⟩).filter (isDuplicate ·.issue) =
      (duplicate? earlier index (p :: ps) 0).toList := by
  have hfault : ((nameFault? p.name).map (Finding.badName ⟨index, p.name⟩)).toList.filter
      (isDuplicate ·.issue) = [] := by
    cases nameFault? p.name <;> simp [isDuplicate, Finding.issue]
  rw [nameFindings, List.filter_append, hfault, List.nil_append, h.clash?_eq]
  simp only [duplicate?, List.getElem?_cons_zero, Option.bind_some, List.take_zero, claimants,
    List.append_nil, Nat.add_zero]
  split_ifs with hname
  · rfl
  · cases firstClash earlier p.name <;> simp [isDuplicate, Finding.issue]

theorem not_isDuplicate_of_mem_componentFindings {index : Nat} {p : Page} {f : Finding}
    (h : f ∈ p.componentFindings index) : ¬isDuplicate f.issue := by
  have habout := isAboutNode_of_mem_componentFindings h
  intro hduplicate
  simp only [isDuplicate, decide_eq_true_eq] at hduplicate
  simp [Issue.isAboutNode, hduplicate] at habout

theorem filterMap_range_succ {α : Type} (f : Nat → Option α) (n : Nat) :
    (List.range (n + 1)).filterMap f =
      (f 0).toList ++ (List.range n).filterMap fun k => f (k + 1) := by
  rw [List.range_succ_eq_map, List.filterMap_cons, List.filterMap_map]
  cases f 0 <;> rfl

/-- **What a run of the check reports as duplicates.**  Each page is compared with the
    claimants in front of it, of which the run itself remembers only the first ones. -/
theorem filter_findingsFrom_duplicate {claims : Claims} {earlier : List Claimant}
    (h : claims.Hold earlier) (index : Nat) (ps : List Page) :
    (findingsFrom index claims ps).filter (isDuplicate ·.issue) =
      (List.range ps.length).filterMap (duplicate? earlier index ps) := by
  induction ps generalizing claims earlier index with
  | nil => rfl
  | cons p ps ih =>
    have hcomponents := List.filter_eq_nil_iff.2 fun f (hf : f ∈ p.componentFindings index) =>
      not_isDuplicate_of_mem_componentFindings hf
    have hnext : (if p.name = "" then claims else claims.add ⟨index, p.name⟩).Hold
        (earlier ++ if p.name = "" then [] else [⟨index, p.name⟩]) := by
      split_ifs
      · rw [List.append_nil]
        exact h
      · exact h.add _
    rw [findingsFrom, List.filter_append, List.filter_append, filter_nameFindings h index p ps,
      hcomponents, ih hnext, List.append_nil, List.length_cons, filterMap_range_succ]
    simp only [duplicate?_cons_succ]

/-! ## The issues about one page -/

/-- The path at which a page is reported as a duplicate. -/
def namePath (i : Nat) : String := pagePath i ++ ".pageName"

/-- The issues that report the page at a position as a duplicate. -/
def duplicateIssues (ps : List Page) (i : Nat) : List Issue :=
  (validate ps).filter fun issue => isDuplicate issue && issue.path = namePath i

theorem namePath_injective {i j : Nat} (h : namePath i = namePath j) : i = j := by
  have hpath : pagePath i = pagePath j := (String.append_left_inj _).1 h
  have hpart : ∀ k, (pagePath k).toList = Place.part "pages" k := fun k => by
    simp [pagePath, Place.part]
  have hread := congrArg (fun path : String => Place.position? "pages" path.toList) hpath
  simp only [hpart, Place.position?_part] at hread
  exact Option.some.inj hread

/-- The issue, if any, that reports the page at a position. -/
def duplicateIssue? (ps : List Page) (i : Nat) : Option Issue :=
  (duplicate? [] 0 ps i).map Finding.issue

theorem filter_validate_duplicate (ps : List Page) :
    (validate ps).filter isDuplicate = (List.range ps.length).filterMap (duplicateIssue? ps) := by
  have hrun := filter_findingsFrom_duplicate Claims.hold_nil 0 ps
  rw [validate, findings, List.filter_map]
  exact (congrArg (List.map Finding.issue) hrun).trans List.map_filterMap

/-- The shape of such an issue. -/
theorem duplicateIssue?_eq_some_iff {ps : List Page} {i : Nat} {issue : Issue} :
    duplicateIssue? ps i = some issue ↔
      ∃ p first clash, ps[i]? = some p ∧ p.name ≠ "" ∧
        firstClash (claimants 0 (ps.take i)) p.name = some (first, clash) ∧
        issue = ⟨"E-PAGE-DUP", p.name, namePath i, clash.message p.name first⟩ := by
  simp only [duplicateIssue?, duplicate?, Option.map_eq_some_iff, Option.bind_eq_some_iff,
    List.nil_append, Nat.zero_add]
  constructor
  · rintro ⟨f, ⟨p, hp, hf⟩, rfl⟩
    split_ifs at hf with hname
    obtain ⟨⟨first, clash⟩, hclash, rfl⟩ := Option.map_eq_some_iff.1 hf
    exact ⟨p, first, clash, hp, hname, hclash, rfl⟩
  · rintro ⟨p, first, clash, hp, hname, hclash, rfl⟩
    exact ⟨.duplicate ⟨i, p.name⟩ first clash, ⟨p, hp, by rw [if_neg hname, hclash]; rfl⟩, rfl⟩

theorem filterMap_range_single {α : Type} (o : Option α) (i n : Nat) :
    (List.range n).filterMap (fun k => if k = i then o else none) =
      if i < n then o.toList else [] := by
  induction n with
  | zero => rfl
  | succ n ih =>
    rw [List.range_succ, List.filterMap_append, ih]
    by_cases hi : n = i
    · subst hi
      cases o <;> simp
    · have hiff : i < n + 1 ↔ i < n := by omega
      simp [hi, hiff]

theorem duplicateIssues_eq (ps : List Page) (i : Nat) :
    duplicateIssues ps i = (duplicateIssue? ps i).toList := by
  have hsplit : duplicateIssues ps i =
      ((validate ps).filter isDuplicate).filter fun issue => issue.path = namePath i := by
    rw [List.filter_filter, duplicateIssues]
    exact List.filter_congr fun issue _ => Bool.and_comm _ _
  have hpath : ∀ k, (duplicateIssue? ps k).filter (fun issue => issue.path = namePath i) =
      if k = i then duplicateIssue? ps i else none := by
    intro k
    by_cases hk : k = i
    · subst hk
      rw [if_pos rfl]
      cases hissue : duplicateIssue? ps k with
      | none => rfl
      | some issue =>
        obtain ⟨p, first, clash, -, -, -, rfl⟩ := duplicateIssue?_eq_some_iff.1 hissue
        simp
    · rw [if_neg hk, Option.filter_eq_none_iff]
      intro issue hissue
      obtain ⟨p, first, clash, -, -, -, rfl⟩ := duplicateIssue?_eq_some_iff.1 hissue
      simpa using fun h => hk (namePath_injective h)
  rw [hsplit, filter_validate_duplicate, List.filter_filterMap]
  simp only [hpath, filterMap_range_single]
  split_ifs with hi
  · rfl
  · -- Behind the last page there is nothing to report.
    have hnone : ps[i]? = none := List.getElem?_eq_none (by omega)
    rw [duplicateIssue?, duplicate?, hnone]
    rfl

/-! ## The earliest claimant -/

/-- The page at a position has a name, and it shares something with another name. -/
def ClaimedAt (ps : List Page) (clash : Clash) (name : String) (j : Nat) : Prop :=
  ∃ q, ps[j]? = some q ∧ q.name ≠ "" ∧ clash.key q.name = clash.key name

theorem mem_claimants_take {ps : List Page} {i : Nat} {c : Claimant} :
    c ∈ claimants 0 (ps.take i) ↔
      ∃ j < i, ∃ q, ps[j]? = some q ∧ q.name ≠ "" ∧ c = ⟨j, q.name⟩ := by
  rw [mem_claimants]
  constructor
  · rintro ⟨j, q, hq, hname, rfl⟩
    rw [List.getElem?_take] at hq
    split_ifs at hq with hj
    exact ⟨j, hj, q, hq, hname, by rw [Nat.zero_add]⟩
  · rintro ⟨j, hj, q, hq, hname, rfl⟩
    exact ⟨j, q, by rw [List.getElem?_take_of_lt hj, hq], hname, by rw [Nat.zero_add]⟩

theorem earliest_eq_none_iff {ps : List Page} {i : Nat} {clash : Clash} {name : String} :
    earliest (claimants 0 (ps.take i)) clash name = none ↔ ∀ j < i, ¬ClaimedAt ps clash name j := by
  simp only [earliest, List.find?_eq_none, decide_eq_true_eq, mem_claimants_take]
  constructor
  · rintro h j hj ⟨q, hq, hname, hkey⟩
    exact h _ ⟨j, hj, q, hq, hname, rfl⟩ hkey
  · rintro h c ⟨j, hj, q, hq, hname, rfl⟩ hkey
    exact h j hj ⟨q, hq, hname, hkey⟩

/-- The earliest claimant is the one with the least position. -/
theorem earliest_eq_some {ps : List Page} {i : Nat} {clash : Clash} {name : String}
    {first : Claimant} (h : earliest (claimants 0 (ps.take i)) clash name = some first) :
    ∃ j < i, ∃ q, first = ⟨j, q.name⟩ ∧ ps[j]? = some q ∧ q.name ≠ "" ∧
      clash.key q.name = clash.key name ∧ ∀ k < j, ¬ClaimedAt ps clash name k := by
  obtain ⟨hkey, before, behind, hlist, hbefore⟩ := List.find?_eq_some_iff_append.1 h
  have hmem : first ∈ claimants 0 (ps.take i) := by rw [hlist]; simp
  obtain ⟨j, hj, q, hq, hname, rfl⟩ := mem_claimants_take.1 hmem
  refine ⟨j, hj, q, rfl, hq, hname, by simpa using hkey, ?_⟩
  rintro k hk ⟨r, hr, hrname, hrkey⟩
  have hclaimant : (⟨k, r.name⟩ : Claimant) ∈ claimants 0 (ps.take i) :=
    mem_claimants_take.2 ⟨k, Nat.lt_trans hk hj, r, hr, hrname, rfl⟩
  have hsorted := claimants_pairwise 0 (ps.take i)
  rw [hlist] at hclaimant hsorted
  rcases List.mem_append.1 hclaimant with hmem | hmem
  · -- Nothing in front of the one that is found shares anything with the name.
    have hno := hbefore _ hmem
    simp [hrkey] at hno
  · rcases List.mem_cons.1 hmem with heq | hmem
    · exact absurd (congrArg Claimant.index heq) (Nat.ne_of_lt hk)
    · have hlater := (List.pairwise_cons.1 (List.pairwise_append.1 hsorted).2.1).1 _ hmem
      exact absurd hlater (Nat.lt_asymm hk)

/-- The page that another one is reported against: of the first clash that there is, the
    earliest page to share it. -/
structure FirstClaim (ps : List Page) (i : Nat) (name : String) (clash : Clash) (j : Nat)
    (q : Page) : Prop where
  before : j < i
  page : ps[j]? = some q
  named : q.name ≠ ""
  shared : clash.key q.name = clash.key name
  /-- No page in front of it shares as much, unless it has no name, and then it shares the
      class at most. -/
  earliest : ∀ k < j, ∀ r, ps[k]? = some r → clash.key r.name = clash.key name →
    r.name = "" ∧ clash = .className
  /-- No other clash would have been found before. -/
  first : ∀ other : Clash, other.rank < clash.rank → ∀ k < i, ¬ClaimedAt ps other name k

theorem firstClaim_of_firstClash {ps : List Page} {i : Nat} {name : String} {first : Claimant}
    {clash : Clash} (hname : name ≠ "")
    (h : firstClash (claimants 0 (ps.take i)) name = some (first, clash)) :
    ∃ j q, first = ⟨j, q.name⟩ ∧ FirstClaim ps i name clash j q := by
  obtain ⟨hearliest, hothers⟩ := firstClash_eq_some h
  obtain ⟨j, hj, q, hfirst, hq, hqname, hkey, hleast⟩ := earliest_eq_some hearliest
  refine ⟨j, q, hfirst, ⟨hj, hq, hqname, hkey, ?_, ?_⟩⟩
  · intro k hk r hr hrkey
    by_cases hrname : r.name = ""
    · rw [hrname] at hrkey
      exact ⟨hrname, Clash.eq_className_of_key_empty hname hrkey⟩
    · exact absurd ⟨r, hr, hrname, hrkey⟩ (hleast k hk)
  · intro other hrank
    exact earliest_eq_none_iff.1 (hothers other hrank)

/-! ## What is reported -/

/-- Every duplicate is reported as one of the pages there are. -/
theorem exists_duplicateIssues {ps : List Page} {issue : Issue} (h : issue ∈ validate ps)
    (hcode : issue.code = "E-PAGE-DUP") : ∃ i < ps.length, issue ∈ duplicateIssues ps i := by
  have hduplicate : issue ∈ (validate ps).filter isDuplicate :=
    List.mem_filter.2 ⟨h, by simpa [isDuplicate] using hcode⟩
  rw [filter_validate_duplicate] at hduplicate
  obtain ⟨i, hi, hissue⟩ := List.mem_filterMap.1 hduplicate
  exact ⟨i, List.mem_range.1 hi, by rw [duplicateIssues_eq, hissue]; simp⟩

theorem duplicateIssue?_ne_none_iff (ps : List Page) (i : Nat) :
    duplicateIssue? ps i ≠ none ↔
      ∃ p, ps[i]? = some p ∧ p.name ≠ "" ∧ ∃ j < i, ∃ clash, ClaimedAt ps clash p.name j := by
  constructor
  · intro h
    obtain ⟨issue, hissue⟩ := Option.ne_none_iff_exists'.1 h
    obtain ⟨p, first, clash, hp, hname, hclash, -⟩ := duplicateIssue?_eq_some_iff.1 hissue
    obtain ⟨j, q, -, hclaim⟩ := firstClaim_of_firstClash hname hclash
    exact ⟨p, hp, hname, j, hclaim.before, clash, q, hclaim.page, hclaim.named, hclaim.shared⟩
  · rintro ⟨p, hp, hname, j, hj, clash, hclaimed⟩
    cases hfirst : firstClash (claimants 0 (ps.take i)) p.name with
    | none =>
      exact absurd hclaimed (earliest_eq_none_iff.1 (firstClash_eq_none_iff.1 hfirst clash) j hj)
    | some found =>
      have hissue := duplicateIssue?_eq_some_iff.2 ⟨p, found.1, found.2, hp, hname, hfirst, rfl⟩
      rw [hissue]
      exact Option.some_ne_none _

/-- **Duplicates are reported against the earliest claimant.**  A page is reported exactly
    if it has a name and shares this name, its class or its element with an earlier page
    that has one, whatever the check has said about the pages between them.  There is one
    issue at most; it is about the first of the three that is shared and names the earliest
    page to share it. -/
theorem duplicates_spec (ps : List Page) :
    (∀ issue ∈ validate ps, issue.code = "E-PAGE-DUP" →
      ∃ i < ps.length, issue ∈ duplicateIssues ps i) ∧
    ∀ i,
      (duplicateIssues ps i ≠ [] ↔ ∃ p, ps[i]? = some p ∧ p.name ≠ "" ∧
        ∃ j < i, ∃ clash, ClaimedAt ps clash p.name j) ∧
      (duplicateIssues ps i).length ≤ 1 ∧
      ∀ issue ∈ duplicateIssues ps i, ∃ p clash j q, ps[i]? = some p ∧
        FirstClaim ps i p.name clash j q ∧
        issue = ⟨"E-PAGE-DUP", p.name, "pages[" ++ toString i ++ "].pageName",
          clash.message p.name ⟨j, q.name⟩⟩ := by
  refine ⟨fun issue h hcode => exists_duplicateIssues h hcode, fun i => ?_⟩
  rw [duplicateIssues_eq, ← duplicateIssue?_ne_none_iff]
  refine ⟨Option.toList_eq_nil_iff.not, Option.length_toList_le, fun issue hmem => ?_⟩
  obtain ⟨p, first, clash, hp, hname, hclash, rfl⟩ :=
    duplicateIssue?_eq_some_iff.1 (Option.mem_toList.1 hmem)
  obtain ⟨j, q, rfl, hclaim⟩ := firstClaim_of_firstClash hname hclash
  have hpath : namePath i = "pages[" ++ toString i ++ "].pageName" := by
    rw [namePath, pagePath, String.append_assoc]
    rfl
  exact ⟨p, clash, j, q, hp, hclaim, by rw [hpath]⟩

end Page

end Pagewright
