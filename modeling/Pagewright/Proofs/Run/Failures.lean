/-
  What a run leaves behind that fails.

  * `ThemeClear` says that the theme is neither one of the files that are written
    from the pages nor copied to a place below one of them;
  * a copy of the theme that fails has made directories at most
    (`ran_pages_beside_failing`), and has done nothing if the theme could not be read
    (`executes_pages_of_unread`);
  * so the pages are written beside it just if they can be written alone
    (`exists_alone_of_beside`, `exists_beside_of_alone`);
  * `compile_failure`: what holds of every run, whichever of its parts fail.
-/
import Pagewright.Proofs.Run.Outcome
import Pagewright.Proofs.Run.Reasons

namespace Pagewright

open FileSystem

/-- The theme is apart from the files that are written from the pages, and it is not
    copied to a place below one of them.  Both its paths lead up with their first
    names only. -/
structure ThemeClear (d : Disk) (output : String) (options : Options) (ps : List Page) : Prop
    extends ThemeApart d output options ps where
  target_up : Path.UpFirst options.theme.target
  below : ∀ path ∈ (Report.ofRun output options ps).files,
    ¬d.place path <+: d.place options.theme.target

/-- The options of a run that neither copies the theme nor writes a barrel. -/
def Options.pagesOnly (options : Options) : Options :=
  { options with copyTheme := false, library := none }

/-- The pages that are loaded from a disk, or why there are none. -/
def loaded (input : String) (d : Disk) : Except RunError (List Page) :=
  ((loadPages input : ExceptT RunError (StateM Disk) (List Page)).run d).1

/-- The files of a barrel, if one is asked for, are what they were: none was made, and
    none has changed. -/
def BarrelUntouched (output : String) (options : Options) (ps : List Page) (d F : Disk) : Prop :=
  ∀ library, options.library = some library → ∀ f ∈ Barrel.files library.moduleName ps,
    ∀ content, F.find? (d.place (Path.join output f.1)) = some (.file content) ↔
      d.find? (d.place (Path.join output f.1)) = some (.file content)

/-- The plan for the directories that the theme is to be found in. -/
def Plan.aboveTheme (options : Options) : Plan := ⟨dirsAbove options.theme.target, ∅⟩

namespace Behaviour

variable {input output : String} {options : Options} {ps : List Page} {d d' M F G : Disk}
  {r : Except RunError Report} {theme : Except RunError (Option String)}
  {pages : Except RunError (List PageReport)} {t : List Event} {e : RunError}

/-! ## Input -/

theorem executes_loaded (input : String) (d : Disk) :
    Executes (loadPages input).run d (loaded input d) d := by
  have hseq := (sequential_loadPages input).simulates d
  rw [(executes_loadPages hseq).1] at hseq
  exact hseq

/-- A run whose pages cannot be loaded ends with that. -/
theorem executes_compile_error (hload : loaded input d = .error e)
    (h : Executes (compile input output options).run d r F) : r = .error e ∧ F = d ∧ e.isInput := by
  obtain ⟨s, m, hread, h⟩ := ran_bind.1 h
  obtain ⟨rfl, hs⟩ := executes_loadPages hread
  obtain rfl : s = .error e := hs.trans hload
  obtain ⟨rfl, rfl⟩ := ran_pure.1 h
  obtain ⟨t, ht, -⟩ := hread
  exact ⟨rfl, rfl, fails_loadPages input t e ht⟩

/-- A run whose pages are loaded compiles them. -/
theorem executes_compile_iff (hload : loaded input d = .ok ps) :
    Executes (compile input output options).run d r F ↔
      Executes (compilePages output options ps).run d r F := by
  constructor
  · intro h
    obtain ⟨s, m, hread, h⟩ := ran_bind.1 h
    obtain ⟨rfl, hs⟩ := executes_loadPages hread
    obtain rfl : s = .ok ps := hs.trans hload
    exact h
  · intro h
    exact ran_bind.2 ⟨.ok ps, d, hload ▸ executes_loaded input d, h⟩

/-! ## Pages only -/

/-- What a run does that writes the pages and nothing else. -/
theorem executes_pagesOnly_iff :
    Executes (compilePages output options.pagesOnly ps).run d r F ↔
      ∃ pages, Executes (Concurrent.all (pageJobs output options ps)) d pages F ∧
        r = pages.map fun reports =>
          ⟨reports, none, [], Page.warnings options.pagesOnly ps⟩ := by
  have hfinish : ∀ reports, (finish output options.pagesOnly ps none reports).run =
      pure (.ok ⟨reports, none, [], Page.warnings options.pagesOnly ps⟩) := by
    intro reports
    rw [run_finish]
    exact pure_bind _ _
  rw [executes_compilePages_iff]
  constructor
  · rintro ⟨theme, pages, M, hboth, hends⟩
    obtain ⟨rfl, hrun⟩ := ran_both_pure.1 hboth
    cases hends with
    | page _ e => exact ⟨.error e, hrun, rfl⟩
    | @finish _ reports _ _ h =>
      rw [hfinish] at h
      obtain ⟨rfl, rfl⟩ := ran_pure.1 h
      exact ⟨.ok reports, hrun, rfl⟩
  · rintro ⟨pages, hrun, rfl⟩
    refine ⟨.ok none, pages, F, ran_both_pure.2 ⟨rfl, hrun⟩, ?_⟩
    cases pages with
    | error e => exact .page none e
    | ok reports => exact .finish (hfinish reports ▸ ran_pure.2 ⟨rfl, rfl⟩)

/-! ## A theme that cannot be copied -/

/-- A file that could not be written has changed nothing. -/
theorem eq_of_writeFile_error {fail : FileError → RunError} {path : String} {content : ByteArray}
    (h : (attempt fail (writeFile path content : Behaviour (Except FileError Unit))).run t
      (.error e)) : ∀ event ∈ t, ∀ m n, event.Occurs m n → m = n := by
  obtain ⟨s, answer, u, rfl, rfl, hanswer⟩ := h
  cases answer with
  | ok a => cases hanswer.2
  | error reason =>
    obtain ⟨rfl, -⟩ := hanswer
    intro event hevent m n hmn
    obtain rfl := List.mem_singleton.1 hevent
    rcases outcome_iff.1 hmn with ⟨h, -⟩ | ⟨_, -, -, rfl⟩
    · cases h
    · rfl

/-- A copy that fails has made directories at most: the file is written last. -/
theorem changes_of_copyTheme_error
    (h : (copyTheme options.theme : ExceptT RunError Behaviour String).run t (.error e)) :
    ∀ event ∈ t, ∀ m n, event.Occurs m n → Changes (Plan.aboveTheme options) m n := by
  have hplan : Plan.dirsAbove options.theme.target ⊆ (Plan.aboveTheme options).dirs := subset_rfl
  rcases run_bind_error h with h | ⟨s, content, u, rfl, hread, h⟩
  · exact keeps_attempt (keeps_readFile _) t _ h
  refine List.forall_mem_append.2 ⟨keeps_attempt (keeps_readFile _) s _ hread, ?_⟩
  rcases run_bind_error h with h | ⟨s', _, u', rfl, hmake, h⟩
  · exact keeps_attempt (keeps_makeParent hplan) u _ h
  refine List.forall_mem_append.2 ⟨keeps_attempt (keeps_makeParent hplan) s' _ hmake, ?_⟩
  rcases run_bind_error h with h | ⟨_, _, _, -, -, -, h⟩
  · exact fun event hevent m n hmn => rel_of_eq m n (eq_of_writeFile_error h event hevent m n hmn)
  · cases h

theorem changes_of_copyThemeIfAsked_error
    (h : (copyThemeIfAsked options : ExceptT RunError Behaviour (Option String)).run t
      (.error e)) :
    options.copyTheme ∧
      ∀ event ∈ t, ∀ m n, event.Occurs m n → Changes (Plan.aboveTheme options) m n := by
  unfold copyThemeIfAsked at h
  cases hasked : options.copyTheme with
  | false =>
    rw [hasked] at h
    cases h.2
  | true =>
    rw [hasked] at h
    rcases run_bind_error h with h | ⟨_, _, _, -, -, -, h⟩
    · exact ⟨rfl, changes_of_copyTheme_error h⟩
    · cases h

/-- The pages are written while the theme fails. -/
theorem ran_pages_beside_failing
    (h : Executes (bothJobs output options ps) d (.error e, pages) M) :
    Ran (Changes (Plan.aboveTheme options ∪ Plan.ofPages output options ps))
      (Concurrent.all (pageJobs output options ps)) d pages M := by
  refine ran_of_both_result rel_of_eq rel_of_eq (keeps_all (keeps_pageJobs (Plan.subset_refl _)))
    (fun t ht _ event hevent m n hmn => ?_) h
  exact ((changes_of_copyThemeIfAsked_error ht).2 event hevent m n hmn).mono
    Plan.subset_union_left

/-! ## A theme that cannot be read -/

/-- A copy whose source is never read has done nothing but fail. -/
theorem eq_of_copyTheme_unread {ρ : Plan} {copied : Except RunError String}
    (hunread : ∀ m, Changes ρ d m → ∀ content, m.readFile options.theme.source ≠ .ok content)
    (h : (copyTheme options.theme : ExceptT RunError Behaviour String).run t copied)
    (hruns : Runs (Changes ρ) d t M) :
    (∃ e, copied = .error e) ∧ ∀ event ∈ t, ∀ m n, event.Occurs m n → m = n := by
  obtain ⟨_, result, u, rfl, ⟨_, answer, v, rfl, rfl, hresult⟩, hcopied⟩ := h
  obtain ⟨m, n, hm, hread, -⟩ := hruns
  obtain ⟨hanswer, -⟩ := Prod.mk.inj hread
  cases answer with
  | ok content => exact absurd hanswer (hunread m hm content)
  | error reason =>
    obtain ⟨rfl, rfl⟩ := hresult
    obtain ⟨rfl, rfl⟩ := hcopied
    refine ⟨⟨_, rfl⟩, fun event hevent m n hmn => ?_⟩
    obtain rfl := List.mem_singleton.1 hevent
    exact (Prod.mk.inj hmn).2

theorem eq_of_copyThemeIfAsked_unread {ρ : Plan} (hasked : options.copyTheme)
    (hunread : ∀ m, Changes ρ d m → ∀ content, m.readFile options.theme.source ≠ .ok content)
    (h : (copyThemeIfAsked options : ExceptT RunError Behaviour (Option String)).run t theme)
    (hruns : Runs (Changes ρ) d t M) :
    (∃ e, theme = .error e) ∧ ∀ event ∈ t, ∀ m n, event.Occurs m n → m = n := by
  unfold copyThemeIfAsked at h
  rw [hasked] at h
  obtain ⟨s, copied, u, rfl, hcopy, hcopied⟩ := h
  obtain ⟨k, hs, -⟩ := runs_append.1 hruns
  obtain ⟨⟨e, rfl⟩, hsame⟩ := eq_of_copyTheme_unread hunread hcopy hs
  obtain ⟨rfl, rfl⟩ := hcopied
  exact ⟨⟨e, rfl⟩, by rwa [List.append_nil]⟩

/-- Beside a theme that cannot be read, the pages are written as if they were alone. -/
theorem executes_pages_of_unread (htree : d.IsTree) (hapart : ThemeApart d output options ps)
    (hasked : options.copyTheme)
    (hunread : ∀ content, d.readFile options.theme.source ≠ .ok content)
    (h : Executes (bothJobs output options ps) d (theme, pages) M) :
    (∃ e, theme = .error e) ∧
      Executes (Concurrent.all (pageJobs output options ps)) d pages M := by
  have hpages : Plan.ofPages output options ps ⊆ Plan.ofSources output options ps :=
    Plan.subset_union_left
  have hnever : ∀ m, Changes (Plan.ofPages output options ps) d m →
      ∀ content, m.readFile options.theme.source ≠ .ok content := by
    intro m hm content hread
    exact hunread content <| hm.readFile_before htree hapart.up
      (fun p c hp => hapart.source p (Report.mem_files (hpages.2 hp))) hread
  obtain ⟨t, ht, hs⟩ := ran_theme_of_both h
  refine ⟨(eq_of_copyThemeIfAsked_unread hasked hnever ht hs).1, ?_⟩
  exact ran_of_both_result rel_of_eq rel_of_eq (keeps_all (keeps_pageJobs (Plan.subset_refl _)))
    (fun t ht hs => (eq_of_copyThemeIfAsked_unread hasked hnever ht hs).2) h

/-! ## Pages beside a failing theme -/

/-- The directories that a path is to be found in are on its way. -/
theorem place_mem_trail_of_dirsAbove {path a : String} (h : a ∈ Plan.dirsAbove path) :
    d.place a ∈ d.trail path := by
  obtain ⟨parent, hparent, ha, -⟩ := h
  have habove : Path.Above path parent := Path.above_of_mem (List.mem_of_mem_head? hparent)
  refine Disk.trail_subset_of_above habove ?_
  rcases List.mem_cons.1 ha with rfl | ha
  · exact Disk.mem_trail_iff.2 (Or.inr rfl)
  · exact Disk.trail_subset_of_above (Path.above_of_mem ha) (Disk.mem_trail_iff.2 (Or.inr rfl))

/-- No directory that the theme is to be found in is missing where a page is written. -/
theorem ne_place_of_aboveTheme (htree : d.IsTree) (hclear : ThemeClear d output options ps)
    {a path : String} {content : ByteArray} (ha : a ∈ (Plan.aboveTheme options).dirs)
    (hnone : d.find? (d.place a) = none)
    (hpath : (path, content) ∈ (Plan.ofPages output options ps).files) :
    d.place path ≠ d.place a := by
  intro hplace
  rcases Disk.prefix_of_mem_trail hclear.target_up (place_mem_trail_of_dirsAbove ha) with
    hstart | hbelow
  · have hdir : d.IsDir (d.place a) := by
      rcases htree.above (htree.start options.theme.target) hstart with heq | hdir
      · rw [heq]
        exact htree.start options.theme.target
      · exact hdir
    cases hnone.symm.trans hdir
  · exact hclear.below path (Report.mem_files (Or.inl hpath)) (hplace ▸ hbelow)

/-- What the pages leave that are written alone is not in the way of a theme whose copy
    fails, nor is such a theme in their way. -/
theorem onTheWay_beside_failing (htree : d.IsTree) (hclear : ThemeClear d output options ps)
    (hG : Changes (Plan.ofPages output options ps) d G)
    (hdone : (Plan.ofPages output options ps).Done G) :
    Plan.OnTheWay (Plan.ofPages output options ps)
      (Plan.aboveTheme options ∪ Plan.ofPages output options ps) G d where
  tree := hG.tree htree
  done := hdone
  planned := Plan.subset_union_right
  toward d' hd :=
    have hstart := Toward.of_changes htree hG
    { current := hd.current.trans hG.current.symm
      tree := hd.tree htree
      no_file l hdir content hfile := by
        cases hd.change l with
        | same hsame => exact hstart.no_file l hdir content (hsame.symm.trans hfile)
        | made _ _ _ _ hdir' => cases hdir'.symm.trans hfile
        | written _ path content' hpath hl =>
          have hfind := hdone.find? (hpath.resolve_left id)
          rw [Disk.place_congr hG.current, hl] at hfind
          cases hdir.symm.trans hfind
      no_dir l content hfile hdir := by
        cases hd.change l with
        | same hsame => exact hstart.no_dir l content hfile (hsame.symm.trans hdir)
        | written _ _ _ _ _ hfile' => cases hdir.symm.trans hfile'
        | made hnone a ha hl =>
          rcases ha with ha | ha
          · -- the theme made a directory; the file is one of the pages, since nothing was there
            cases hG.change l with
            | same hsame => cases (hsame.symm.trans hfile).symm.trans hnone
            | made _ _ _ _ hdir' => cases hdir'.symm.trans hfile
            | written _ path content' hpath hplace =>
              exact ne_place_of_aboveTheme htree hclear ha (hl ▸ hnone) hpath (hplace.trans hl.symm)
          · have hdir' := hdone.isDir ha
            rw [Disk.place_congr hG.current, hl] at hdir'
            cases hdir'.symm.trans hfile }

/-- Pages that were written alone are there. -/
theorem done_of_pages (hps : Page.WellFormed ps) {reports : List PageReport}
    (h : Executes (Concurrent.all (pageJobs output options ps)) d (.ok reports) G) :
    Changes (Plan.ofPages output options ps) d G ∧ (Plan.ofPages output options ps).Done G := by
  have hnotheme : options.pagesOnly.copyTheme → ThemeApart d output options.pagesOnly ps := nofun
  have hrun : Ran (Changes (Plan.sideBySide output options.pagesOnly ps Set.univ))
      (Concurrent.all (pageJobs output options.pagesOnly ps)) d (.ok reports) G :=
    h.mono rel_of_eq
  refine ⟨?_, (done_of_pageJobs hps hnotheme hrun).2⟩
  exact (h.mono rel_of_eq).rel (keeps_all (keeps_pageJobs (Plan.subset_refl _)))

/-- Pages that are written beside a theme that fails can be written alone. -/
theorem exists_alone_of_beside (htree : d.IsTree) (hps : Page.WellFormed ps)
    (hapart : options.copyTheme → ThemeApart d output options ps) {reports : List PageReport}
    (h : Executes (bothJobs output options ps) d (.error e, .ok reports) M) :
    ∃ report G, Executes (compilePages output options.pagesOnly ps).run d (.ok report) G := by
  have hM := (ran_pages_beside_failing h).rel (keeps_all (keeps_pageJobs Plan.subset_union_right))
  have hdone := (done_of_pageJobs hps hapart (ran_pages_of_both h)).2
  have hway : Plan.OnTheWay (Plan.ofPages output options ps) _ M d := Plan.Goal.onTheWay
    ⟨hM.tree htree, hdone, Plan.covers_self _⟩ (Plan.subset_refl _) (Toward.of_changes htree hM)
  -- to write the pages one after the other is a way to write them, and it succeeds
  have halone := simulates_compilePages output options.pagesOnly ps d
  obtain ⟨pages, hpages, hreport⟩ := executes_pagesOnly_iff.1 halone
  obtain ⟨reports, rfl⟩ := succeeds_pageJobs hps (Plan.subset_refl _) hway pages _
    (hpages.mono rel_of_eq)
  exact ⟨_, _, hreport ▸ halone⟩

/-- Pages that can be written alone are written beside a theme that fails. -/
theorem exists_beside_of_alone (htree : d.IsTree) (hps : Page.WellFormed ps)
    (hclear : options.copyTheme → ThemeClear d output options ps)
    (h : Executes (bothJobs output options ps) d (.error e, pages) M) {report : Report}
    (halone : Executes (compilePages output options.pagesOnly ps).run d (.ok report) G) :
    ∃ reports, pages = .ok reports := by
  have hrun := ran_pages_beside_failing h
  obtain ⟨t, ⟨_, _, -, htheme, -⟩, -⟩ := h
  obtain ⟨pages', hpages, hreport⟩ := executes_pagesOnly_iff.1 halone
  cases pages' with
  | error e => cases hreport
  | ok reports =>
    obtain ⟨hG, hdone⟩ := done_of_pages hps hpages
    have hway := onTheWay_beside_failing htree
      (hclear (changes_of_copyThemeIfAsked_error htheme).1) hG hdone
    exact succeeds_pageJobs hps (Plan.subset_refl _) hway pages M hrun

/-! ## The barrel -/

/-- What is written side by side leaves the barrel as it was. -/
theorem barrelUntouched_of_both (hapart : options.copyTheme → ThemeApart d output options ps)
    (h : Executes (bothJobs output options ps) d (theme, pages) M) :
    BarrelUntouched output options ps d M := by
  intro library hasked f hf content
  have hfile : (Path.join output f.1, f.2.toUTF8) ∈
      (Plan.ofLibraryIfAsked output options ps).files :=
    Plan.mem_ofLibraryIfAsked.2 ⟨library, hasked, f, hf, rfl⟩
  cases (changes_of_both h).change (d.place (Path.join output f.1)) with
  | same hsame => rw [hsame]
  | made hnone _ _ _ hdir =>
    rw [hnone, hdir]
    exact ⟨nofun, nofun⟩
  | written _ path c hpath hplace _ =>
    rcases hpath with hpath | ⟨p, hp, g, hg, heq⟩
    · obtain ⟨hcopied, rfl, -⟩ := Plan.mem_ofThemeIfAsked.1 hpath
      exact absurd hplace.symm ((hapart hcopied).target _ (Report.mem_files (Or.inr hfile)))
    · obtain ⟨rfl, rfl⟩ := Prod.mk.inj heq
      exact absurd hplace.symm
        (Barrel.place_ne_of_mem_files d hf (Page.mem_fileNames_of_mem_files hg))

/-- A run of which a part has failed that comes before the barrel fails, and leaves what
    that part and those beside it have left. -/
theorem Ends.eq_error (h : Ends output options ps M theme pages r F)
    (hfailed : (∃ e, theme = .error e) ∨ ∃ e, pages = .error e) : (∃ e, r = .error e) ∧ F = M := by
  cases h with
  | theme e pages => exact ⟨⟨e, rfl⟩, rfl⟩
  | page copied e => exact ⟨⟨e, rfl⟩, rfl⟩
  | finish h => rcases hfailed with ⟨e, he⟩ | ⟨e, he⟩ <;> cases he

/-- No run that has loaded its pages fails as if it had not. -/
theorem not_isInput_of_executes
    (h : Executes (compilePages output options ps).run d (.error e) F) : ¬e.isInput := by
  obtain ⟨theme, pages, M, ⟨t, ⟨s, u, -, htheme, hpages⟩, -⟩, hends⟩ :=
    executes_compilePages_iff.1 h
  have houtput : e.isOutput → ¬e.isInput := by
    intro h
    cases e <;> simp_all [RunError.isOutput, RunError.isInput]
  cases hends with
  | theme e pages =>
    obtain ⟨reason, rfl⟩ := fails_copyThemeIfAsked options s e htheme
    exact nofun
  | page copied e => exact houtput (fails_pageJobs u e hpages)
  | finish hend =>
    obtain ⟨t, ht, -⟩ := hend
    exact houtput (fails_run_bind (fails_writeLibraryIfAsked output options ps)
      (fun _ => fails_pure _) t e ht)

end Behaviour

open Behaviour

/-! ## Runs that fail -/

/-- What holds of a run whose theme could not be copied. -/
structure ThemeFailed (input output : String) (options : Options) (ps : List Page) (d : Disk)
    (pages : Except RunError (List PageReport)) (r : Except RunError Report) (F : Disk) :
    Prop where
  /-- The run tells of the theme, whether or not pages have failed. -/
  reason : ∃ reason, r = .error (.themeCopy options.theme.source options.theme.target reason)
  /-- If no page has failed, all their files are there. -/
  written : (∃ reports, pages = .ok reports) → ∀ p ∈ ps, ∀ f ∈ p.files options.themeImport,
    F.readFile (Path.join (Path.join output p.name) f.1) = .ok f.2.toUTF8
  /-- No page has failed just if none does where the theme is not asked for. -/
  alone : (∃ reports, pages = .ok reports) ↔
    ∃ report G, Executes (compile input output options.pagesOnly).run d (.ok report) G
  /-- If it was the theme's source that could not be read, what is left is what a run
      leaves that has not asked for the theme. -/
  unread : ∀ e, d.readFile options.theme.source = .error e →
    Changes (Plan.ofPages output options ps) d F ∧
      ∃ r', Executes (compile input output options.pagesOnly).run d r' F

/-- What holds of a run that has loaded its pages, with the results of its theme and of
    its pages; the latter are a failure if any of the pages has failed. -/
structure Accounted (input output : String) (options : Options) (ps : List Page) (d : Disk)
    (theme : Except RunError (Option String)) (pages : Except RunError (List PageReport))
    (r : Except RunError Report) (F : Disk) : Prop where
  theme_failed : ∀ e, theme = .error e → ThemeFailed input output options ps d pages r F
  /-- A theme that cannot be read before the run cannot be copied. -/
  theme_unread : options.copyTheme → ∀ e, d.readFile options.theme.source = .error e →
    ∃ e', theme = .error e'
  /-- If the theme or a page has failed, so has the run, and it has left the barrel alone. -/
  barrel : (∃ e, theme = .error e) ∨ (∃ e, pages = .error e) →
    (∃ e, r = .error e) ∧ BarrelUntouched output options ps d F
  /-- A run that has succeeded has written all that was asked for. -/
  success : ∀ report, r = .ok report →
    report = Report.ofRun output options ps ∧ Compiled output options ps d F

section
variable {input output : String} {options : Options} {ps : List Page} {d M F : Disk}
  {r : Except RunError Report} {pages : Except RunError (List PageReport)} {e : RunError}

theorem themeFailed_of_both (htree : d.IsTree) (hload : loaded input d = .ok ps)
    (hclear : options.copyTheme → ThemeClear d output options ps)
    (h : Executes (bothJobs output options ps) d (.error e, pages) M) :
    ThemeFailed input output options ps d pages (.error e) M := by
  have hps : Page.WellFormed ps := wellFormed_of_loadPages (hload ▸ executes_loaded input d)
  have hapart : options.copyTheme → ThemeApart d output options ps :=
    fun hasked => (hclear hasked).toThemeApart
  obtain ⟨t, ⟨s, u, -, htheme, -⟩, -⟩ := id h
  have hasked := (changes_of_copyThemeIfAsked_error htheme).1
  refine ⟨?_, fun hpages p hp f hf => ?_, ?_, fun reason hunread => ?_⟩
  · obtain ⟨reason, rfl⟩ := fails_copyThemeIfAsked options s e htheme
    exact ⟨reason, rfl⟩
  · obtain ⟨reports, rfl⟩ := hpages
    exact (done_of_pageJobs hps hapart (ran_pages_of_both h)).2.files _ _ ⟨p, hp, f, hf, rfl⟩
  · simp only [executes_compile_iff hload]
    constructor
    · rintro ⟨reports, rfl⟩
      exact exists_alone_of_beside htree hps hapart h
    · rintro ⟨report, G, halone⟩
      exact exists_beside_of_alone htree hps hclear h halone
  · have hno : ∀ content, d.readFile options.theme.source ≠ .ok content := by
      rw [hunread]
      exact fun content => nofun
    have halone := (executes_pages_of_unread htree (hapart hasked) hasked hno h).2
    exact ⟨(halone.mono rel_of_eq).rel (keeps_all (keeps_pageJobs (Plan.subset_refl _))), _,
      (executes_compile_iff hload).2 (executes_pagesOnly_iff.2 ⟨pages, halone, rfl⟩)⟩

/-- **What a run leaves behind, whichever of its parts fail.**  On a tree of files, and
    if the theme is clear of what is written from the pages: a run that fails for its
    input has changed nothing; one that cannot copy its theme says so, and the pages are
    as they would be without it; if the theme or a page has failed, the barrel is as it
    was; and a run that has succeeded has written all that was asked for. -/
theorem compile_failure (htree : d.IsTree)
    (hclear : ∀ ps, loaded input d = .ok ps → options.copyTheme → ThemeClear d output options ps)
    (h : Executes (compile input output options).run d r F) :
    (∀ e, r = .error e → e.isInput → F = d) ∧
    (∀ e, loaded input d = .error e → r = .error e ∧ e.isInput) ∧
    ∀ ps, loaded input d = .ok ps → ∃ theme pages M,
      Executes (bothJobs output options ps) d (theme, pages) M ∧
      Ends output options ps M theme pages r F ∧
      Accounted input output options ps d theme pages r F := by
  refine ⟨fun e hr hinput => ?_, fun e hload => ?_, fun ps hload => ?_⟩
  · cases hload : loaded input d with
    | error e' => exact (executes_compile_error hload h).2.1
    | ok ps =>
      subst hr
      exact absurd hinput (not_isInput_of_executes ((executes_compile_iff hload).1 h))
  · obtain ⟨hr, -, hinput⟩ := executes_compile_error hload h
    exact ⟨hr, hinput⟩
  have hps : Page.WellFormed ps := wellFormed_of_loadPages (hload ▸ executes_loaded input d)
  have hapart : options.copyTheme → ThemeApart d output options ps :=
    fun hasked => (hclear ps hload hasked).toThemeApart
  have hrun := (executes_compile_iff hload).1 h
  obtain ⟨theme, pages, M, hboth, hends⟩ := executes_compilePages_iff.1 hrun
  refine ⟨theme, pages, M, hboth, hends, ?_, fun hasked e hunread => ?_, fun hfailed => ?_, ?_⟩
  · rintro e rfl
    cases hends
    exact themeFailed_of_both htree hload (hclear ps hload) hboth
  · refine (executes_pages_of_unread htree (hapart hasked) hasked ?_ hboth).1
    rw [hunread]
    exact fun content => nofun
  · obtain ⟨hr, rfl⟩ := hends.eq_error hfailed
    exact ⟨hr, barrelUntouched_of_both hapart hboth⟩
  · rintro report rfl
    exact compiled_of_executes htree hps hapart hrun

end

/-! ### A theme that is not there -/

/-- A disk with the pages of a run, but without its theme. -/
def bareDisk : Disk where
  entries :=
    [(["pages.json"], .file "[\x7b\"pageName\":\"home\",\"components\":[]\x7d]".toUTF8)]

theorem isTree_bareDisk : bareDisk.IsTree := Disk.isTree_of_entries (by decide) (by decide)

theorem loaded_bareDisk : loaded "pages.json" bareDisk = .ok [⟨"home", []⟩] :=
  eq_of_isHome (by decide +kernel)

theorem themeClear_bareDisk : ThemeClear bareDisk "out" homeOptions [⟨"home", []⟩] where
  up := ⟨0, ["theme.scss"], by decide +kernel, by decide⟩
  source := by decide +kernel
  target := by decide +kernel
  target_up := ⟨0, ["out", "styles", "theme.scss"], by decide +kernel, by decide⟩
  below := by decide +kernel

/-- The run fails for its theme; its page is written, and its barrel is not. -/
theorem compile_failure_bareDisk : ∃ reason F,
    Executes (compile "pages.json" "out" homeOptions).run bareDisk
      (.error (.themeCopy "theme.scss" "out/styles/theme.scss" reason)) F ∧
    (∀ f ∈ Page.files ⟨"home", []⟩ homeOptions.themeImport,
      F.readFile (Path.join "out/home" f.1) = .ok f.2.toUTF8) ∧
    BarrelUntouched "out" homeOptions [⟨"home", []⟩] bareDisk F := by
  have hrun := simulates_compile "pages.json" "out" homeOptions bareDisk
  have hclear : ∀ ps, loaded "pages.json" bareDisk = .ok ps → homeOptions.copyTheme →
      ThemeClear bareDisk "out" homeOptions ps := by
    intro ps hload _
    obtain rfl := Except.ok.inj (loaded_bareDisk.symm.trans hload)
    exact themeClear_bareDisk
  obtain ⟨-, -, hloaded⟩ := compile_failure isTree_bareDisk hclear hrun
  obtain ⟨theme, pages, M, -, -, haccounted⟩ := hloaded _ loaded_bareDisk
  have hunread : bareDisk.readFile "theme.scss" = .error .notFound := by decide +kernel
  obtain ⟨e, htheme⟩ := haccounted.theme_unread rfl _ hunread
  have hfailed := haccounted.theme_failed e htheme
  obtain ⟨reason, hreason⟩ := hfailed.reason
  -- the page can be written without the theme, so it is written
  obtain ⟨report, halone⟩ := (simulates_compile "pages.json" "out" homeOptions.pagesOnly).exists_ok
    (d := bareDisk) (by decide +kernel)
  have hpages : ∃ reports, pages = .ok reports := hfailed.alone.2 ⟨report, _, halone⟩
  rw [hreason] at hrun
  exact ⟨reason, _, hrun, hfailed.written hpages _ (List.mem_singleton.2 rfl),
    (haccounted.barrel (Or.inl ⟨e, htheme⟩)).2⟩

end Pagewright
