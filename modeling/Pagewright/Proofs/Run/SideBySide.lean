/-
  The theme and the pages of a run, which are written side by side.

  * `Plan.ofRun` is all that a run may do, `ThemeApart` says that its theme is
    none of the other files;
  * `done_of_both`: if all have succeeded, their plans are done;
  * `succeeds_of_both`: if they have succeeded in some order, they do so in every
    order.
-/
import Pagewright.Proofs.Run.Jobs

namespace Pagewright

/-! ## Plans of runs -/

namespace Plan

instance : EmptyCollection Plan where
  emptyCollection := ⟨∅, ∅⟩

/-- The plan for all pages. -/
def ofPages (output : String) (options : Options) (ps : List Page) : Plan where
  dirs := {a | ∃ p ∈ ps, a ∈ (ofPage output options.themeImport p).dirs}
  files := {f | ∃ p ∈ ps, f ∈ (ofPage output options.themeImport p).files}

/-- The plan for the theme, if the options ask for it. -/
def ofThemeIfAsked (options : Options) (contents : Set ByteArray) : Plan :=
  if options.copyTheme then ofTheme options.theme contents else ∅

/-- The plan for the barrel, if the options ask for it. -/
def ofLibraryIfAsked (output : String) (options : Options) (ps : List Page) : Plan :=
  match options.library with
  | some library => ofLibrary output library ps
  | none => ∅

/-- The plan for what is written from the pages. -/
def ofSources (output : String) (options : Options) (ps : List Page) : Plan :=
  ofPages output options ps ∪ ofLibraryIfAsked output options ps

/-- The plan for what is written side by side. -/
def sideBySide (output : String) (options : Options) (ps : List Page)
    (contents : Set ByteArray) : Plan :=
  ofThemeIfAsked options contents ∪ ofPages output options ps

/-- The plan of a run. -/
def ofRun (output : String) (options : Options) (ps : List Page) (contents : Set ByteArray) :
    Plan :=
  sideBySide output options ps contents ∪ ofLibraryIfAsked output options ps

theorem mem_ofThemeIfAsked {options : Options} {contents : Set ByteArray} {path : String}
    {content : ByteArray} :
    (path, content) ∈ (ofThemeIfAsked options contents).files ↔
      options.copyTheme ∧ path = options.theme.target ∧ content ∈ contents := by
  unfold ofThemeIfAsked
  cases options.copyTheme with
  | false => exact ⟨False.elim, nofun⟩
  | true => exact ⟨fun h => ⟨rfl, h⟩, fun h => h.2⟩

theorem mem_ofLibraryIfAsked {output : String} {options : Options} {ps : List Page}
    {f : String × ByteArray} :
    f ∈ (ofLibraryIfAsked output options ps).files ↔
      ∃ library, options.library = some library ∧ f ∈ (ofLibrary output library ps).files := by
  unfold ofLibraryIfAsked
  cases options.library with
  | none => exact ⟨False.elim, nofun⟩
  | some library =>
    refine ⟨fun h => ⟨library, rfl, h⟩, ?_⟩
    rintro ⟨other, hother, h⟩
    obtain rfl := Option.some.inj hother
    exact h

theorem ofPage_subset {output : String} {options : Options} {ps : List Page} {p : Page}
    (hp : p ∈ ps) : ofPage output options.themeImport p ⊆ ofPages output options ps :=
  ⟨fun _ ha => ⟨p, hp, ha⟩, fun _ hf => ⟨p, hp, hf⟩⟩

theorem covers_ofThemeIfAsked (options : Options) (content : ByteArray) :
    (ofThemeIfAsked options {content}).Covers (ofThemeIfAsked options Set.univ) := by
  unfold ofThemeIfAsked
  cases options.copyTheme with
  | false => exact covers_self ∅
  | true => exact ⟨subset_rfl, fun path _ h => ⟨content, h.1, rfl⟩⟩

theorem covers_sideBySide (output : String) (options : Options) (ps : List Page)
    (content : ByteArray) :
    (sideBySide output options ps {content}).Covers (sideBySide output options ps Set.univ) :=
  (covers_ofThemeIfAsked options content).union (covers_self _)

theorem sideBySide_mono (output : String) (options : Options) (ps : List Page)
    {cs cs' : Set ByteArray} (h : cs ⊆ cs') :
    sideBySide output options ps cs ⊆ sideBySide output options ps cs' := by
  refine ⟨?_, ?_⟩
  · unfold sideBySide ofThemeIfAsked
    cases options.copyTheme <;> exact subset_rfl
  · rintro ⟨path, content⟩ (hpath | hpath)
    · obtain ⟨hasked, rfl, hcontent⟩ := mem_ofThemeIfAsked.1 hpath
      exact Or.inl (mem_ofThemeIfAsked.2 ⟨hasked, rfl, h hcontent⟩)
    · exact Or.inr hpath

end Plan

/-! ## Reports of runs -/

namespace Report

/-- What is reported for a run. -/
def ofRun (output : String) (options : Options) (ps : List Page) : Report where
  pages := ps.map (Page.report output)
  themeCopied := if options.copyTheme then some options.theme.target else none
  libraryFiles :=
    match options.library with
    | some library => (Barrel.files library.moduleName ps).map fun f => Path.join output f.1
    | none => []
  warnings := Page.warnings options ps

/-- The files that a report lists, but for the theme. -/
def files (r : Report) : List String := r.pages.flatMap (·.files) ++ r.libraryFiles

/-- What is written from the pages is reported. -/
theorem mem_files {output : String} {options : Options} {ps : List Page} {path : String}
    {content : ByteArray} (h : (path, content) ∈ (Plan.ofSources output options ps).files) :
    path ∈ (ofRun output options ps).files := by
  rw [files, List.mem_append]
  rcases h with ⟨p, hp, f, hf, heq⟩ | h
  · obtain ⟨rfl, rfl⟩ := Prod.mk.inj heq
    refine Or.inl (List.mem_flatMap.2 ⟨p.report output, List.mem_map_of_mem hp, ?_⟩)
    exact List.mem_map_of_mem (Page.mem_fileNames_of_mem_files hf)
  · obtain ⟨library, hasked, f, hf, heq⟩ := Plan.mem_ofLibraryIfAsked.1 h
    obtain ⟨rfl, rfl⟩ := Prod.mk.inj heq
    rw [ofRun, hasked]
    exact Or.inr (List.mem_map_of_mem hf)

end Report

/-- The theme is neither read from nor copied to a file that is written from the
    pages, and its source leads up with its first names only. -/
structure ThemeApart (d : Disk) (output : String) (options : Options) (ps : List Page) : Prop where
  up : Path.UpFirst options.theme.source
  source : ∀ path ∈ (Report.ofRun output options ps).files,
    d.place path ≠ d.place options.theme.source
  target : ∀ path ∈ (Report.ofRun output options ps).files,
    d.place path ≠ d.place options.theme.target

namespace Behaviour

variable {output : String} {options : Options} {ps : List Page} {d d' M : Disk}

/-! ## The theme -/

theorem keeps_copyThemeIfAsked {ρ : Plan} (hplan : Plan.ofThemeIfAsked options Set.univ ⊆ ρ) :
    Keeps (Changes ρ)
      (copyThemeIfAsked options : ExceptT RunError Behaviour (Option String)).run := by
  unfold Plan.ofThemeIfAsked at hplan
  unfold copyThemeIfAsked
  cases hasked : options.copyTheme with
  | false => exact keeps_pure _
  | true =>
    rw [hasked] at hplan
    exact keeps_run_bind (keeps_copyTheme hplan) fun _ => keeps_pure _

/-- The theme that a run copied, while the pages were written. -/
theorem done_of_copyThemeIfAsked (htree : d.IsTree)
    (hapart : options.copyTheme → ThemeApart d output options ps) {copied : Option String}
    (h : Ran (Changes (Plan.ofPages output options ps))
      (copyThemeIfAsked options : ExceptT RunError Behaviour (Option String)).run d
      (.ok copied) d') :
    copied = (if options.copyTheme then some options.theme.target else none) ∧
      ∃ content, (options.copyTheme → d.readFile options.theme.source = .ok content) ∧
        (Plan.ofThemeIfAsked options {content}).Done d' := by
  unfold copyThemeIfAsked at h
  unfold Plan.ofThemeIfAsked
  cases hasked : options.copyTheme with
  | false =>
    rw [hasked] at h
    exact ⟨Except.ok.inj (ran_pure.1 h).1, ByteArray.empty, nofun, nofun, nofun⟩
  | true =>
    rw [hasked] at h
    obtain ⟨target, m, hcopy, h⟩ := ran_run_bind_ok.1 h
    obtain ⟨hcopied, hm⟩ := ran_pure.1 h
    have ha := hapart hasked
    have hpages : Plan.ofPages output options ps ⊆ Plan.ofSources output options ps :=
      Plan.subset_union_left
    obtain ⟨rfl, content, hcontent, hdone⟩ := done_of_copyTheme htree ha.up
      (fun p c hp => ha.source p (Report.mem_files (hpages.2 hp)))
      (fun p c hp => ha.target p (Report.mem_files (hpages.2 hp)))
      (hcopy.tail hm)
    exact ⟨Except.ok.inj hcopied, content, fun _ => hcontent, hdone⟩

/-- On the way to a disk on which it is there, the theme is copied, while the
    pages are written. -/
theorem succeeds_copyThemeIfAsked
    (hapart : options.copyTheme → ThemeApart d output options ps) {content : ByteArray}
    (hcontent : options.copyTheme → d.readFile options.theme.source = .ok content)
    (hway : Plan.OnTheWay (Plan.sideBySide output options ps {content})
      (Plan.sideBySide output options ps Set.univ) M d) :
    Succeeds (Changes (Plan.ofPages output options ps))
      (copyThemeIfAsked options : ExceptT RunError Behaviour (Option String)).run d := by
  have hplan : Plan.ofThemeIfAsked options Set.univ ⊆ Plan.sideBySide output options ps Set.univ :=
    Plan.subset_union_left
  have hown : Plan.ofThemeIfAsked options {content} ⊆
      Plan.sideBySide output options ps {content} := Plan.subset_union_left
  unfold Plan.ofThemeIfAsked at hplan hown
  unfold copyThemeIfAsked
  cases hasked : options.copyTheme with
  | false => exact succeeds_pure none
  | true =>
    rw [hasked] at hplan hown
    have hpages : Plan.ofPages output options ps ⊆ Plan.ofSources output options ps :=
      Plan.subset_union_left
    exact succeeds_run_bind (succeeds_copyTheme hplan hown hway Plan.subset_union_right
      (fun p c hp => (hapart hasked).source p (Report.mem_files (hpages.2 hp))) (hcontent hasked))
      fun target _ _ => succeeds_pure (some target)

/-! ## The pages -/

/-- The jobs that compile the pages. -/
def pageJobs (output : String) (options : Options) (ps : List Page) :
    List (Behaviour (Except RunError PageReport)) :=
  ps.map fun p => (compilePage output options.themeImport p).run

theorem keeps_pageJobs {ρ : Plan} (hplan : Plan.ofPages output options ps ⊆ ρ) :
    ∀ x ∈ pageJobs output options ps, Keeps (Changes ρ) x := by
  intro x hx
  obtain ⟨p, hp, rfl⟩ := List.mem_map.1 hx
  exact keeps_compilePage (Plan.subset_trans (Plan.ofPage_subset hp) hplan)

/-- What is planned at the place of a file of a page, for any page, is that file. -/
theorem only_file (hps : Page.WellFormed ps) {p : Page} (hp : p ∈ ps) {f : String × String}
    (hf : f ∈ p.files options.themeImport) :
    (Plan.ofPages output options ps).Only d (Path.join (Path.join output p.name) f.1)
      f.2.toUTF8 := by
  rintro path content ⟨q, hq, g, hg, heq⟩ hplace
  obtain ⟨rfl, rfl⟩ := Prod.mk.inj heq
  rw [Page.place_file (hps.names q hq) (Page.mem_fileNames_of_mem_files hg),
    Page.place_file (hps.names p hp) (Page.mem_fileNames_of_mem_files hf)] at hplace
  have hnames := List.append_cancel_left hplace
  obtain ⟨hname, hrest⟩ := List.cons.inj hnames
  obtain rfl := List.inj_on_of_nodup_map hps.distinct_names hq hp hname
  rw [Page.eq_of_mem_files hg hf (List.cons.inj hrest).1]

theorem only_of_apart (hapart : options.copyTheme → ThemeApart d output options ps)
    {path : String} {c : ByteArray}
    (hpath : (path, c) ∈ (Plan.ofSources output options ps).files) (content : ByteArray) :
    (Plan.ofThemeIfAsked options Set.univ).Only d path content := by
  intro p c' hp hplace
  obtain ⟨hasked, rfl, -⟩ := Plan.mem_ofThemeIfAsked.1 hp
  exact absurd hplace.symm ((hapart hasked).target path (Report.mem_files hpath))

/-- The pages that a run compiled side by side, while the theme was copied. -/
theorem done_of_pageJobs (hps : Page.WellFormed ps)
    (hapart : options.copyTheme → ThemeApart d output options ps) {reports : List PageReport}
    (h : Ran (Changes (Plan.sideBySide output options ps Set.univ))
      (Concurrent.all (pageJobs output options ps)) d (.ok reports) d') :
    reports = ps.map (Page.report output) ∧ (Plan.ofPages output options ps).Done d' := by
  have hplan : Plan.ofPages output options ps ⊆ Plan.sideBySide output options ps Set.univ :=
    Plan.subset_union_right
  have hjobs := List.forall₂_map_left_iff.1 (ran_of_all_ok (keeps_pageJobs hplan) h)
  have hall : ∀ qs ⊆ ps, ∀ rs, List.Forall₂ (fun p r =>
      Ran (Changes (Plan.sideBySide output options ps Set.univ))
        (compilePage output options.themeImport p).run d (.ok r) d') qs rs →
      rs = qs.map (Page.report output) ∧
        ∀ q ∈ qs, (Plan.ofPage output options.themeImport q).Done d' := by
    intro qs hqs rs hrun
    induction hrun with
    | nil => exact ⟨rfl, nofun⟩
    | @cons q r qs rs hq _ ih =>
      obtain ⟨hmem, hqs⟩ := List.cons_subset.1 hqs
      obtain ⟨rfl, hrest⟩ := ih hqs
      obtain ⟨rfl, hdone⟩ := done_of_compilePage
        (Plan.subset_trans (Plan.ofPage_subset hmem) hplan)
        (fun f hf => (only_of_apart hapart (Or.inl ⟨q, hmem, f, hf, rfl⟩) _).union
          (only_file hps hmem hf)) hq
      exact ⟨rfl, List.forall_mem_cons.2 ⟨hdone, hrest⟩⟩
  obtain ⟨hreports, hdone⟩ := hall ps (List.Subset.refl ps) reports hjobs
  refine ⟨hreports, ?_, ?_⟩
  · rintro path ⟨p, hp, hpath⟩
    exact (hdone p hp).dirs path hpath
  · rintro path content ⟨p, hp, hpath⟩
    exact (hdone p hp).files path content hpath

/-- On the way to a disk on which they are there, the pages are compiled. -/
theorem succeeds_pageJobs {π ρ : Plan} (hps : Page.WellFormed ps)
    (hplan : Plan.ofPages output options ps ⊆ π) (hway : Plan.OnTheWay π ρ M d) :
    Succeeds (Changes ρ) (Concurrent.all (pageJobs output options ps)) d := by
  refine succeeds_all (keeps_pageJobs (Plan.subset_trans hplan hway.planned)) fun x hx => ?_
  obtain ⟨p, hp, rfl⟩ := List.mem_map.1 hx
  exact succeeds_compilePage (Plan.subset_trans (Plan.ofPage_subset hp) hplan) (hps.names p hp) hway

/-! ## Both -/

/-- The theme and the pages, side by side. -/
def bothJobs (output : String) (options : Options) (ps : List Page) :
    Behaviour (Except RunError (Option String) × Except RunError (List PageReport)) :=
  Concurrent.both (copyThemeIfAsked options).run (Concurrent.all (pageJobs output options ps))

section
variable {theme : Except RunError (Option String)} {pages : Except RunError (List PageReport)}

/-- The theme is copied while the pages are written. -/
theorem ran_theme_of_both (h : Executes (bothJobs output options ps) d (theme, pages) M) :
    Ran (Changes (Plan.ofPages output options ps)) (copyThemeIfAsked options).run d theme M :=
  ran_of_both_left rel_of_eq
    (keeps_all (keeps_pageJobs (Plan.subset_refl _))) h

/-- The pages are written while the theme is copied. -/
theorem ran_pages_of_both (h : Executes (bothJobs output options ps) d (theme, pages) M) :
    Ran (Changes (Plan.sideBySide output options ps Set.univ))
      (Concurrent.all (pageJobs output options ps)) d pages M :=
  ran_of_both_right rel_of_eq (keeps_copyThemeIfAsked Plan.subset_union_left) h

theorem changes_of_both (h : Executes (bothJobs output options ps) d (theme, pages) M) :
    Changes (Plan.sideBySide output options ps Set.univ) d M :=
  (ran_pages_of_both h).rel (keeps_all (keeps_pageJobs Plan.subset_union_right))

/-- The theme and the pages that a run has written side by side are there. -/
theorem done_of_both (htree : d.IsTree) (hps : Page.WellFormed ps)
    (hapart : options.copyTheme → ThemeApart d output options ps) {copied : Option String}
    {reports : List PageReport}
    (h : Executes (bothJobs output options ps) d (.ok copied, .ok reports) M) :
    copied = (if options.copyTheme then some options.theme.target else none) ∧
      reports = ps.map (Page.report output) ∧
      ∃ content, (options.copyTheme → d.readFile options.theme.source = .ok content) ∧
        (Plan.sideBySide output options ps {content}).Done M := by
  obtain ⟨hcopied, content, hcontent, htheme⟩ :=
    done_of_copyThemeIfAsked htree hapart (ran_theme_of_both h)
  obtain ⟨hreports, hpages⟩ := done_of_pageJobs hps hapart (ran_pages_of_both h)
  exact ⟨hcopied, hreports, content, hcontent, htheme.union hpages⟩

/-- On the way to a disk on which they are there, the theme and the pages are
    written in every order. -/
theorem succeeds_of_both (hps : Page.WellFormed ps)
    (hapart : options.copyTheme → ThemeApart d output options ps) {content : ByteArray}
    (hcontent : options.copyTheme → d.readFile options.theme.source = .ok content)
    (hway : Plan.OnTheWay (Plan.sideBySide output options ps {content})
      (Plan.sideBySide output options ps Set.univ) M d) {M' : Disk}
    (h : Executes (bothJobs output options ps) d (theme, pages) M') :
    (∃ copied, theme = .ok copied) ∧ ∃ reports, pages = .ok reports := by
  constructor
  · exact succeeds_copyThemeIfAsked hapart hcontent hway theme M' (ran_theme_of_both h)
  · exact succeeds_pageJobs hps Plan.subset_union_right hway pages M' (ran_pages_of_both h)

/-- **The order makes no difference.** If the theme and the pages are written in
    some order, they are in every order, and the disks hold the same. -/
theorem same_of_both (htree : d.IsTree) (hps : Page.WellFormed ps)
    (hapart : options.copyTheme → ThemeApart d output options ps) {copied : Option String}
    {reports : List PageReport} {M' : Disk}
    (h : Executes (bothJobs output options ps) d (.ok copied, .ok reports) M)
    (h' : Executes (bothJobs output options ps) d (theme, pages) M') :
    theme = .ok copied ∧ pages = .ok reports ∧ M.Same M' := by
  obtain ⟨rfl, rfl, content, hcontent, hdone⟩ := done_of_both htree hps hapart h
  have hM := changes_of_both h
  have hcovers := Plan.covers_sideBySide output options ps content
  obtain ⟨⟨copied', rfl⟩, reports', rfl⟩ := succeeds_of_both hps hapart hcontent
    (Plan.Goal.onTheWay ⟨hM.tree htree, hdone, hcovers⟩
      (Plan.sideBySide_mono output options ps (Set.subset_univ _)) (Toward.of_changes htree hM)) h'
  obtain ⟨rfl, rfl, content', hcontent', hdone'⟩ := done_of_both htree hps hapart h'
  have hplan : Plan.ofThemeIfAsked options {content'} = Plan.ofThemeIfAsked options {content} := by
    unfold Plan.ofThemeIfAsked
    cases hasked : options.copyTheme with
    | false => rfl
    | true => rw [Except.ok.inj ((hcontent' hasked).symm.trans (hcontent hasked))]
  rw [Plan.sideBySide, hplan] at hdone'
  exact ⟨rfl, rfl, Plan.same_of_done hcovers hM (changes_of_both h') hdone hdone'⟩

end

end Behaviour

end Pagewright
