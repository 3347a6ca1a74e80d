/-
  What a run leaves behind.

  * `Compiled` says which files there are after a run and what they hold, and that
    nothing else has changed;
  * `compile_outcome`: a run that has succeeded leaves just that behind, and it
    would have in every order of its jobs.
-/
import Pagewright.Proofs.Run.Sequential
import Pagewright.Proofs.Run.SideBySide

namespace Pagewright

/-- What a run leaves of a disk: the files of the pages, the theme and the barrel,
    the directories they are in, and otherwise what was there. -/
structure Compiled (output : String) (options : Options) (ps : List Page) (d F : Disk) : Prop where
  pages : ∀ p ∈ ps, ∀ f ∈ p.files options.themeImport,
    F.readFile (Path.join (Path.join output p.name) f.1) = .ok f.2.toUTF8
  /-- The theme holds what its source held before the run. -/
  theme : options.copyTheme → ∃ content,
    d.readFile options.theme.source = .ok content ∧ F.readFile options.theme.target = .ok content
  library : ∀ library, options.library = some library →
    ∀ f ∈ Barrel.files library.moduleName ps,
      F.readFile (Path.join output f.1) = .ok f.2.toUTF8
  directories : ∀ a ∈ (Plan.ofRun output options ps Set.univ).dirs, F.isDirectory a
  rest : Changes (Plan.ofRun output options ps Set.univ) d F

namespace Behaviour

variable {input output : String} {options : Options} {ps : List Page} {d d' M F : Disk}

/-! ## Input -/

/-- Reading the pages changes nothing, and has one result. -/
theorem executes_loadPages {r : Except RunError (List Page)}
    (h : Executes (loadPages input).run d r d') :
    d' = d ∧ r = ((loadPages input : ExceptT RunError (StateM Disk) (List Page)).run d).1 := by
  have hkeeps : Keeps Eq (loadPages input : ExceptT RunError Behaviour (List Page)).run := by
    refine keeps_run_bind (keeps_attempt ((keeps_readFile input).bind fun r => ?_))
      fun _ => keeps_pure _
    cases r with
    | error e => exact keeps_pure _
    | ok bytes =>
      dsimp only
      cases String.fromUTF8? bytes <;> exact keeps_pure _
  have hseq := sequential_loadPages input
  exact ⟨(h.rel hkeeps).symm, (hseq.settled d d _ _ _ _ (Disk.Same.refl d) h (hseq.simulates d)).1⟩

/-- Pages that are loaded are well formed. -/
theorem wellFormed_of_loadPages (h : Executes (loadPages input).run d (.ok ps) d') :
    Page.WellFormed ps := by
  obtain ⟨source, m, -, h⟩ := ran_run_bind_ok.1 h
  obtain ⟨hparse, -⟩ := ran_pure.1 h
  unfold parsePages at hparse
  rw [← Page.validate_eq_nil_iff]
  cases hjson : Page.listOfJson source.toList with
  | error f =>
    rw [hjson] at hparse
    cases hparse
  | ok qs =>
    rw [hjson] at hparse
    cases hvalid : Page.validate qs with
    | nil =>
      simp only [hvalid] at hparse
      rw [Except.ok.inj hparse, hvalid]
    | cons issue issues =>
      simp only [hvalid] at hparse
      cases hparse

/-! ## The barrel -/

theorem keeps_writeLibraryIfAsked {ρ : Plan}
    (hplan : Plan.ofLibraryIfAsked output options ps ⊆ ρ) :
    Keeps (Changes ρ)
      (writeLibraryIfAsked output options ps : ExceptT RunError Behaviour (List String)).run := by
  unfold Plan.ofLibraryIfAsked at hplan
  unfold writeLibraryIfAsked
  cases hasked : options.library with
  | none => exact keeps_pure _
  | some library =>
    rw [hasked] at hplan
    exact keeps_writeLibrary hplan

/-- What is planned at the place of a file of the barrel is that file. -/
theorem only_barrel {library : Library} {f : String × String}
    (hf : f ∈ Barrel.files library.moduleName ps) :
    (Plan.ofLibrary output library ps).Only d (Path.join output f.1) f.2.toUTF8 := by
  rintro path content ⟨g, hg, heq⟩ hplace
  obtain ⟨rfl, rfl⟩ := Prod.mk.inj heq
  rw [List.inj_on_of_nodup_map (Barrel.nodup_places d output library.moduleName ps) hg hf hplace]

/-- The barrel that a run has written. -/
theorem done_of_writeLibraryIfAsked {written : List String}
    (h : Executes (writeLibraryIfAsked output options ps).run d (.ok written) d') :
    written = (Report.ofRun output options ps).libraryFiles ∧
      (Plan.ofLibraryIfAsked output options ps).Done d' := by
  unfold writeLibraryIfAsked at h
  unfold Plan.ofLibraryIfAsked Report.ofRun
  cases hasked : options.library with
  | none =>
    rw [hasked] at h
    exact ⟨Except.ok.inj (ran_pure.1 h).1, nofun, nofun⟩
  | some library =>
    rw [hasked] at h
    exact done_of_writeLibrary (Plan.subset_refl _) (fun f hf => only_barrel hf) (h.mono rel_of_eq)

/-- The barrel is at none of the places that are planned side by side. -/
theorem only_of_barrel (hapart : options.copyTheme → ThemeApart d output options ps)
    {path : String} {content c : ByteArray}
    (hpath : (path, c) ∈ (Plan.sideBySide output options ps {content}).files) :
    (Plan.ofLibraryIfAsked output options ps).Only d path c := by
  intro p c' hp hplace
  rcases hpath with hpath | ⟨q, hq, g, hg, heq⟩
  · obtain ⟨hasked, rfl, -⟩ := Plan.mem_ofThemeIfAsked.1 hpath
    exact absurd hplace ((hapart hasked).target p (Report.mem_files (Or.inr hp)))
  · obtain ⟨rfl, rfl⟩ := Prod.mk.inj heq
    obtain ⟨library, -, f, hf, heq⟩ := Plan.mem_ofLibraryIfAsked.1 hp
    obtain ⟨rfl, rfl⟩ := Prod.mk.inj heq
    exact absurd hplace (Barrel.place_ne_of_mem_files d hf (Page.mem_fileNames_of_mem_files hg))

/-! ## Runs -/

/-- What a run does once the theme and the pages are written. -/
def finish (output : String) (options : Options) (ps : List Page) (copied : Option String)
    (reports : List PageReport) : ExceptT RunError Behaviour Report := do
  let written ← writeLibraryIfAsked output options ps
  return ⟨reports, copied, written, Page.warnings options ps⟩

theorem run_finish (copied : Option String) (reports : List PageReport) :
    (finish output options ps copied reports).run = (do
      match ← (writeLibraryIfAsked output options ps).run with
      | .error e => pure (.error e)
      | .ok written => pure (.ok ⟨reports, copied, written, Page.warnings options ps⟩)) := by
  rw [finish, ExceptT.run_bind]
  refine bind_congr fun r => ?_
  cases r <;> rfl

/-- How a run ends once the theme and the pages are at their ends, on the disk that
    they have left: the theme's failure is told first, then that of a page, and only
    if nothing has failed the run goes on. -/
inductive Ends (output : String) (options : Options) (ps : List Page) (M : Disk) :
    Except RunError (Option String) → Except RunError (List PageReport) →
      Except RunError Report → Disk → Prop where
  | theme (e : RunError) (pages : Except RunError (List PageReport)) :
    Ends output options ps M (.error e) pages (.error e) M
  | page (copied : Option String) (e : RunError) :
    Ends output options ps M (.ok copied) (.error e) (.error e) M
  | finish {copied : Option String} {reports : List PageReport} {r : Except RunError Report}
    {F : Disk} (h : Executes (finish output options ps copied reports).run M r F) :
    Ends output options ps M (.ok copied) (.ok reports) r F

/-- A run writes the theme and the pages side by side, and ends as they have. -/
theorem executes_compilePages_iff {r : Except RunError Report} :
    Executes (compilePages output options ps).run d r F ↔
      ∃ theme pages M, Executes (bothJobs output options ps) d (theme, pages) M ∧
        Ends output options ps M theme pages r F := by
  constructor
  · intro h
    obtain ⟨⟨theme, pages⟩, M, hboth, h⟩ := ran_bind.1 h
    refine ⟨theme, pages, M, hboth, ?_⟩
    dsimp only at h
    cases theme with
    | error e =>
      obtain ⟨rfl, rfl⟩ := ran_pure.1 h
      exact .theme e pages
    | ok copied =>
      cases pages with
      | error e =>
        obtain ⟨rfl, rfl⟩ := ran_pure.1 h
        exact .page copied e
      | ok reports => exact .finish (by rwa [run_finish])
  · rintro ⟨theme, pages, M, hboth, hends⟩
    refine ran_bind.2 ⟨(theme, pages), M, hboth, ?_⟩
    cases hends with
    | theme e pages => exact ran_pure.2 ⟨rfl, rfl⟩
    | page copied e => exact ran_pure.2 ⟨rfl, rfl⟩
    | finish h => rwa [run_finish] at h

/-- A run has succeeded if all that is written side by side has, and then the
    barrel. -/
theorem ran_compilePages_ok {report : Report}
    (h : Executes (compilePages output options ps).run d (.ok report) F) :
    ∃ copied reports M, Executes (bothJobs output options ps) d (.ok copied, .ok reports) M ∧
      Executes (finish output options ps copied reports).run M (.ok report) F := by
  obtain ⟨theme, pages, M, hboth, hends⟩ := executes_compilePages_iff.1 h
  cases hends with
  | finish h => exact ⟨_, _, M, hboth, h⟩

theorem settled_finish (copied : Option String) (reports : List PageReport) :
    Settled (finish output options ps copied reports).run :=
  (sequential_run_bind (sequential_writeLibraryIfAsked output options ps) fun _ =>
    sequential_pure _).settled

/-- **What a run leaves behind.** -/
theorem compiled_of_executes (htree : d.IsTree) (hps : Page.WellFormed ps)
    (hapart : options.copyTheme → ThemeApart d output options ps) {report : Report}
    (h : Executes (compilePages output options ps).run d (.ok report) F) :
    report = Report.ofRun output options ps ∧ Compiled output options ps d F := by
  obtain ⟨copied, reports, M, hboth, h⟩ := ran_compilePages_ok h
  obtain ⟨written, N, hlibrary, h⟩ := ran_run_bind_ok.1 h
  obtain ⟨hreport, hN⟩ := ran_pure.1 h
  obtain rfl : F = N := hN.symm
  obtain ⟨rfl, rfl, content, hcontent, hdone⟩ := done_of_both htree hps hapart hboth
  obtain ⟨rfl, hbarrel⟩ := done_of_writeLibraryIfAsked hlibrary
  have hM := changes_of_both hboth
  have hF : Changes (Plan.ofLibraryIfAsked output options ps) M F :=
    (hlibrary.mono rel_of_eq).rel (keeps_writeLibraryIfAsked (Plan.subset_refl _))
  have hfile : ∀ path c, (path, c) ∈ (Plan.sideBySide output options ps {content}).files →
      F.readFile path = .ok c := fun path c hpath =>
    hF.readFile (hdone.files path c hpath) ((only_of_barrel hapart hpath).congr hM.current)
  refine ⟨Except.ok.inj hreport, ?_⟩
  exact
    { pages := fun p hp f hf => hfile _ _ (Or.inr ⟨p, hp, f, hf, rfl⟩)
      theme := fun hasked => ⟨content, hcontent hasked,
        hfile _ _ (Or.inl (Plan.mem_ofThemeIfAsked.2 ⟨hasked, rfl, rfl⟩))⟩
      library := fun library hasked f hf =>
        hbarrel.files _ _ (Plan.mem_ofLibraryIfAsked.2 ⟨library, hasked, f, hf, rfl⟩)
      directories := fun a ha => by
        rcases ha with ha | ha
        · have hcovers := Plan.covers_sideBySide output options ps content
          exact hF.isDirectory (hdone.dirs a (hcovers.dirs ha))
        · exact hbarrel.dirs a ha
      rest := IsTrans.trans d M F (hM.mono Plan.subset_union_left)
        (hF.mono Plan.subset_union_right) }

/-- **The order makes no difference to a run.** -/
theorem same_of_executes (htree : d.IsTree) (hps : Page.WellFormed ps)
    (hapart : options.copyTheme → ThemeApart d output options ps) {report : Report}
    (h : Executes (compilePages output options ps).run d (.ok report) F)
    {r : Except RunError Report} {F' : Disk}
    (h' : Executes (compilePages output options ps).run d r F') :
    r = .ok report ∧ F.Same F' := by
  obtain ⟨copied, reports, M, hboth, hfinish⟩ := ran_compilePages_ok h
  obtain ⟨theme, pages, M', hboth', hends⟩ := executes_compilePages_iff.1 h'
  obtain ⟨rfl, rfl, hsame⟩ := same_of_both htree hps hapart hboth hboth'
  cases hends with
  | finish hfinish' =>
    obtain ⟨hreport, hF⟩ := settled_finish copied reports M M' _ r F F' hsame hfinish hfinish'
    exact ⟨hreport.symm, hF⟩

end Behaviour

open Behaviour

/-- **A run that has succeeded writes exactly its outputs, whatever the order of
    the work.**  If pages were loaded from a tree of files, the theme is apart from
    what is written from them, and some execution of the run has succeeded, then it
    reports on the pages in their order and leaves the outputs and nothing else
    behind; and every execution, however the jobs fall between each other, succeeds
    with the same report and leaves the same behind. -/
theorem compile_outcome {input output : String} {options : Options} {ps : List Page} {d F : Disk}
    {report : Report} (htree : d.IsTree)
    (hload : ((loadPages input : ExceptT RunError (StateM Disk) (List Page)).run d).1 = .ok ps)
    (hapart : options.copyTheme → ThemeApart d output options ps)
    (h : Executes (compile input output options).run d (.ok report) F) :
    report = Report.ofRun output options ps ∧ Compiled output options ps d F ∧
      ∀ r F', Executes (compile input output options).run d r F' → r = .ok report ∧ F.Same F' := by
  have hpages : ∀ r F', Executes (compile input output options).run d r F' →
      Page.WellFormed ps ∧ Executes (compilePages output options ps).run d r F' := by
    intro r F' h
    obtain ⟨s, m, hread, h⟩ := ran_bind.1 h
    obtain ⟨rfl, rfl⟩ := executes_loadPages hread
    rw [hload] at hread h
    exact ⟨wellFormed_of_loadPages hread, h⟩
  obtain ⟨hps, hrun⟩ := hpages _ F h
  obtain ⟨rfl, hcompiled⟩ := compiled_of_executes htree hps hapart hrun
  exact ⟨rfl, hcompiled, fun r F' h' => same_of_executes htree hps hapart hrun (hpages r F' h').2⟩

/-! ### A page with a theme and a barrel -/

/-- A disk with the pages of a run and its theme. -/
def homeDisk : Disk where
  entries :=
    [(["pages.json"], .file "[\x7b\"pageName\":\"home\",\"components\":[]\x7d]".toUTF8),
      (["theme.scss"], .file ".home \x7b\x7d".toUTF8)]

/-- The options of a run that copies the theme below the output. -/
def homeOptions : Options where
  theme := ⟨"theme.scss", "out/styles/theme.scss"⟩
  library := some ⟨"lib"⟩

theorem isTree_homeDisk : homeDisk.IsTree :=
  Disk.isTree_of_entries (by decide) (by decide)

/-- Whether what was loaded is the page of the run. -/
def isHome : Except RunError (List Page) → Bool
  | .ok [p] => p.name = "home" && p.components.isEmpty
  | _ => false

theorem eq_of_isHome {r : Except RunError (List Page)} (h : isHome r) : r = .ok [⟨"home", []⟩] := by
  cases r with
  | error e => cases h
  | ok ps =>
    cases ps with
    | nil => cases h
    | cons p ps =>
      cases ps with
      | cons q qs => cases h
      | nil =>
        obtain ⟨name, components⟩ := p
        have h : (name = "home" && components.isEmpty) = true := h
        rw [Bool.and_eq_true, decide_eq_true_eq, List.isEmpty_iff] at h
        obtain ⟨rfl, rfl⟩ := h
        rfl

theorem loadPages_homeDisk :
    ((loadPages "pages.json" : ExceptT RunError (StateM Disk) (List Page)).run homeDisk).1 =
      .ok [⟨"home", []⟩] :=
  eq_of_isHome (by decide +kernel)

theorem themeApart_homeDisk : ThemeApart homeDisk "out" homeOptions [⟨"home", []⟩] where
  up := ⟨0, ["theme.scss"], by decide +kernel, by decide⟩
  source := by decide +kernel
  target := by decide +kernel

theorem compile_outcome_home : ∃ report F,
    Executes (compile "pages.json" "out" homeOptions).run homeDisk (.ok report) F ∧
    report = Report.ofRun "out" homeOptions [⟨"home", []⟩] ∧
    Compiled "out" homeOptions [⟨"home", []⟩] homeDisk F ∧
    ∀ r F', Executes (compile "pages.json" "out" homeOptions).run homeDisk r F' →
      r = .ok report ∧ F.Same F' := by
  have hok : ((compile "pages.json" "out" homeOptions :
      ExceptT RunError (StateM Disk) Report).run homeDisk).1.toBool = true := by decide +kernel
  have hrun := simulates_compile "pages.json" "out" homeOptions homeDisk
  cases hreport : ((compile "pages.json" "out" homeOptions :
      ExceptT RunError (StateM Disk) Report).run homeDisk).1 with
  | error e =>
    rw [hreport] at hok
    cases hok
  | ok report =>
    rw [hreport] at hrun
    exact ⟨report, _, hrun, compile_outcome isTree_homeDisk loadPages_homeDisk
      (fun _ => themeApart_homeDisk) hrun⟩

end Pagewright
