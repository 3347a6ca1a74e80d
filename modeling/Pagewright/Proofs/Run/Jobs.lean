/-
  The jobs of a run: the sources of a page, the theme, the barrel.

  For each of them there is its plan, and three facts: it keeps to its plan
  (`keeps_…`); when it has succeeded, its plan is done and its result is known
  (`done_of_…`); and on the way to a disk on which its plan is done it does not
  fail (`succeeds_…`).
-/
import Pagewright.Proofs.Page.Files
import Pagewright.Proofs.Run.Attempts

namespace Pagewright

open FileSystem

/-! ## Plans of jobs -/

namespace Plan

/-- A directory, and texts to be written into it. -/
def folder (directory : String) (files : List (String × String)) : Plan where
  dirs := dirsTo directory
  files := {f | ∃ file ∈ files, f = (Path.join directory file.1, file.2.toUTF8)}

/-- The plan for a page. -/
def ofPage (output themeImport : String) (p : Page) : Plan :=
  folder (Path.join output p.name) (p.files themeImport)

/-- The plan for a theme whose content is one of some contents. -/
def ofTheme (theme : Theme) (contents : Set ByteArray) : Plan where
  dirs := dirsAbove theme.target
  files := {f | f.1 = theme.target ∧ f.2 ∈ contents}

/-- The plan for a barrel. -/
def ofLibrary (output : String) (library : Library) (ps : List Page) : Plan :=
  folder output (Barrel.files library.moduleName ps)

end Plan

/-- What is reported for a page. -/
def Page.report (output : String) (p : Page) : PageReport where
  name := p.name
  directory := Path.join output p.name
  files := (Page.fileNames p.name).map (Path.join (Path.join output p.name))
  unknownTags := p.unknownTags

namespace Behaviour

variable {R : Disk → Disk → Prop} {α β : Type} {d d' M : Disk} {π ρ : Plan}

/-! ## Pages -/

section
variable {output themeImport : String} {p : Page}

/-- The jobs that write the files of a page. -/
def pageWrites (output themeImport : String) (p : Page) :
    List (Behaviour (Except RunError String)) :=
  (p.files themeImport).map fun f =>
    (writeSource (Path.join (Path.join output p.name) f.1) f.2).run

theorem keeps_pageWrites (h : Plan.ofPage output themeImport p ⊆ ρ) :
    ∀ x ∈ pageWrites output themeImport p, Keeps (Changes ρ) x := by
  intro x hx
  obtain ⟨f, hf, rfl⟩ := List.mem_map.1 hx
  exact keeps_writeSource (h.2 ⟨f, hf, rfl⟩)

theorem compilePage_eq :
    (compilePage output themeImport p : ExceptT RunError Behaviour PageReport) = (do
      attempt (.createDir (Path.join output p.name)) (makeDirs (Path.join output p.name))
      let files ← ExceptT.mk (Concurrent.all (pageWrites output themeImport p))
      return ⟨p.name, Path.join output p.name, files, p.unknownTags⟩) := rfl

theorem keeps_compilePage (h : Plan.ofPage output themeImport p ⊆ ρ) :
    Keeps (Changes ρ) (compilePage output themeImport p).run := by
  rw [compilePage_eq]
  exact keeps_run_bind (keeps_attempt (keeps_makeDirs h.1)) fun _ =>
    keeps_run_bind (keeps_all (keeps_pageWrites h)) fun _ => keeps_pure _

/-- Files that were written side by side are read again. -/
theorem readFile_of_writes {directory : String} {files : List (String × String)}
    {written : List String}
    (honly : ∀ f ∈ files, ρ.Only d (Path.join directory f.1) f.2.toUTF8)
    (h : List.Forall₂ (fun f w =>
      Ran (Changes ρ) (writeSource (Path.join directory f.1) f.2).run d (.ok w) d') files written) :
    written = files.map (fun f => Path.join directory f.1) ∧
      ∀ f ∈ files, d'.readFile (Path.join directory f.1) = .ok f.2.toUTF8 := by
  induction h with
  | nil => exact ⟨rfl, nofun⟩
  | @cons f w files written hf _ ih =>
    obtain ⟨hfirst, hrest⟩ := List.forall_mem_cons.1 honly
    obtain ⟨rfl, hall⟩ := ih hrest
    obtain ⟨rfl, hwrite⟩ := ran_writeSource_ok.1 hf
    exact ⟨rfl, List.forall_mem_cons.2 ⟨readFile_of_ran_writeFile hfirst hwrite, hall⟩⟩

/-- **A page that was compiled is there**: its directory with those above it, and
    its files with their contents. -/
theorem done_of_compilePage (hplan : Plan.ofPage output themeImport p ⊆ ρ)
    (honly : ∀ f ∈ p.files themeImport,
      ρ.Only d (Path.join (Path.join output p.name) f.1) f.2.toUTF8) {report : PageReport}
    (h : Ran (Changes ρ) (compilePage output themeImport p).run d (.ok report) d') :
    report = p.report output ∧ (Plan.ofPage output themeImport p).Done d' := by
  rw [compilePage_eq] at h
  obtain ⟨u, m, hmake, h⟩ := ran_run_bind_ok.1 h
  obtain ⟨written, k, hall, h⟩ := ran_run_bind_ok.1 h
  obtain ⟨hreport, hk⟩ := ran_pure.1 h
  have hmake := ran_attempt_ok.1 hmake
  have hdm : Changes ρ d m := hmake.rel (keeps_makeDirs hplan.1)
  have hmk : Changes ρ m k := hall.rel (keeps_all (keeps_pageWrites hplan))
  have hwrites := List.forall₂_map_left_iff.1 (ran_of_all_ok (keeps_pageWrites hplan) hall)
  obtain ⟨rfl, hfiles⟩ := readFile_of_writes (fun f hf => (honly f hf).congr hdm.current) hwrites
  refine ⟨Except.ok.inj hreport, fun path hpath => ?_, ?_⟩
  · exact hk.isDirectory (hmk.isDirectory (isDirectory_of_makeDirs hmake path hpath))
  · rintro path content ⟨f, hf, heq⟩
    obtain ⟨rfl, rfl⟩ := Prod.mk.inj heq
    exact hk.readFile (hfiles f hf) ((honly f hf).congr (hmk.current.trans hdm.current))

/-- On the way to a disk on which it is there, a page is compiled. -/
theorem succeeds_compilePage (hplan : Plan.ofPage output themeImport p ⊆ π)
    (hname : IsPageName p.name) (hway : Plan.OnTheWay π ρ M d) :
    Succeeds (Changes ρ) (compilePage output themeImport p).run d := by
  have hdirectory : Path.IsNew (Path.join output p.name) := by
    have hlast := Disk.names_join output hname.isName
    exact ⟨p.name, by rw [hlast, List.getLast?_concat], hname.isName.ne_dot, hname.isName.ne_dots⟩
  rw [compilePage_eq]
  refine succeeds_run_bind (succeeds_attempt
    (succeeds_makeDirs hway hdirectory.tidy hplan.1)) fun _ m hmake => ?_
  have hmake := ran_attempt_ok.1 hmake
  have hdm : Changes ρ d m := hmake.rel (keeps_makeDirs (hplan.1.trans hway.planned.1))
  have hmem : Path.join output p.name ∈ Plan.dirsTo (Path.join output p.name) := by
    refine ⟨List.mem_cons_self, fun hempty => ?_⟩
    obtain ⟨n, hlast, -⟩ := hdirectory
    rw [hempty] at hlast
    cases hlast
  have hdir : m.isDirectory (Path.join output p.name) := isDirectory_of_makeDirs hmake _ hmem
  have hwrites : ∀ x ∈ pageWrites output themeImport p, Succeeds (Changes ρ) x m := by
    intro x hx
    obtain ⟨f, hf, rfl⟩ := List.mem_map.1 hx
    have hfile : (Path.join (Path.join output p.name) f.1, f.2.toUTF8) ∈ π.files :=
      hplan.2 ⟨f, hf, rfl⟩
    obtain ⟨hopen, -⟩ := Disk.readFile_eq_ok_iff.1 (hway.done.files _ _ hfile)
    refine succeeds_writeSource (succeeds_writeFile (hway.changes hdm) hfile ⟨hopen.sound, ?_⟩)
    rw [Disk.way_join _ (Page.isName_of_mem_fileNames hname (Page.mem_fileNames_of_mem_files hf))]
    exact (Disk.isDirectory_iff.1 hdir).2
  have hkeeps := keeps_pageWrites (Plan.subset_trans hplan hway.planned)
  exact succeeds_run_bind (succeeds_all hkeeps hwrites) fun _ _ _ => succeeds_pure _

end

/-! ## The theme -/

section
variable {theme : Theme} {contents : Set ByteArray}

theorem keeps_copyTheme (hplan : Plan.ofTheme theme Set.univ ⊆ ρ) :
    Keeps (Changes ρ) (copyTheme theme : ExceptT RunError Behaviour String).run := by
  refine keeps_run_bind (keeps_attempt (keeps_readFile _)) fun content => ?_
  refine keeps_run_bind (keeps_attempt (keeps_makeParent hplan.1)) fun _ => ?_
  refine keeps_run_bind (keeps_attempt (keeps_writeFile fun _ _ => ?_)) fun _ => keeps_pure _
  exact Changes.of_writeFile (hplan.2 ⟨rfl, trivial⟩)

/-- **A theme that was copied is there**, with the content its source had before
    anything was done, if nobody else writes the source or the target. -/
theorem done_of_copyTheme (htree : d.IsTree) (hup : Path.UpFirst theme.source)
    (hsource : ∀ p c, (p, c) ∈ ρ.files → d.place p ≠ d.place theme.source)
    (htarget : ∀ p c, (p, c) ∈ ρ.files → d.place p ≠ d.place theme.target) {target : String}
    (h : Ran (Changes ρ) (copyTheme theme : ExceptT RunError Behaviour String).run d
      (.ok target) d') :
    target = theme.target ∧ ∃ content, d.readFile theme.source = .ok content ∧
      (Plan.ofTheme theme {content}).Done d' := by
  obtain ⟨content, m, hread, h⟩ := ran_run_bind_ok.1 h
  obtain ⟨u, k, hmake, h⟩ := ran_run_bind_ok.1 h
  obtain ⟨u', n, hwrite, h⟩ := ran_run_bind_ok.1 h
  obtain ⟨hreport, hn⟩ := ran_pure.1 h
  have hwrite := ran_attempt_ok.1 hwrite
  have hmake := ran_attempt_ok.1 hmake
  obtain ⟨i, hi, hfile, him⟩ := ran_readFile.1 (ran_attempt_ok.1 hread)
  -- What the theme job does itself is not in `ρ`, so its own steps are added.
  have hρ : ρ ⊆ ρ ∪ Plan.ofTheme theme Set.univ := Plan.subset_union_left
  have hown : Plan.ofTheme theme Set.univ ⊆ ρ ∪ Plan.ofTheme theme Set.univ :=
    Plan.subset_union_right
  have hmk : Changes (ρ ∪ Plan.ofTheme theme Set.univ) m k :=
    (hmake.mono fun _ _ => Changes.mono hρ).rel (keeps_makeParent hown.1)
  have hkn : Changes (ρ ∪ Plan.ofTheme theme Set.univ) k n :=
    (hwrite.mono fun _ _ => Changes.mono hρ).rel
      (keeps_writeFile fun _ _ => Changes.of_writeFile (hown.2 ⟨rfl, trivial⟩))
  have hk : k.current = d.current := hmk.current.trans (him.current.trans hi.current)
  have honly : ρ.Only d theme.target content := fun p c hp hl => absurd hl (htarget p c hp)
  refine ⟨Except.ok.inj hreport, content, hi.readFile_before htree hup hsource hfile,
    fun path hpath => ?_, ?_⟩
  · exact hn.isDirectory (hkn.isDirectory (isDirectory_of_makeParent hmake path hpath))
  · rintro path c ⟨rfl, rfl⟩
    exact hn.readFile (readFile_of_ran_writeFile (honly.congr hk) hwrite)
      (honly.congr (hkn.current.trans hk))

/-- On the way to a disk on which it is there, a theme is copied. -/
theorem succeeds_copyTheme (hplan : Plan.ofTheme theme Set.univ ⊆ ρ) {content' : ByteArray}
    (hown : Plan.ofTheme theme {content'} ⊆ π) (hway : Plan.OnTheWay π ρ M d) {σ : Plan}
    (hσ : σ ⊆ ρ) {content : ByteArray}
    (hsource : ∀ p c, (p, c) ∈ σ.files → d.place p ≠ d.place theme.source)
    (hcontent : d.readFile theme.source = .ok content) :
    Succeeds (Changes σ) (copyTheme theme : ExceptT RunError Behaviour String).run d := by
  refine succeeds_run_bind (succeeds_attempt ?_) fun c m hread => ?_
  · intro r d' h
    obtain ⟨i, hi, rfl, -⟩ := ran_readFile.1 h
    exact ⟨content, hi.readFile hcontent fun p c hp hl => absurd hl (hsource p c hp)⟩
  have hdm : Changes σ d m := (ran_attempt_ok.1 hread).rel (keeps_readFile _)
  have hwaym := hway.changes (hdm.mono hσ)
  suffices hok : Succeeds (Changes ρ) _ m from hok.mono fun _ _ => Changes.mono hσ
  refine succeeds_run_bind (succeeds_attempt (succeeds_makeParent hwaym hown.1))
    fun _ k hmake => ?_
  have hmake := ran_attempt_ok.1 hmake
  have hwayk := hwaym.changes (hmake.rel (keeps_makeParent hplan.1))
  have hpath : (theme.target, content') ∈ π.files := hown.2 ⟨rfl, rfl⟩
  have hfile := hway.done.files _ _ hpath
  obtain ⟨hopen, -⟩ := Disk.readFile_eq_ok_iff.1 hfile
  have hopen' : k.Open theme.target :=
    isOpen_of_makeParent (hwayk.toward k (refl k)).tree hopen.sound (hway.tree.isNew hfile) hmake
  exact succeeds_run_bind (succeeds_attempt (succeeds_writeFile hwayk hpath hopen'))
    fun _ _ _ => succeeds_pure _

end

/-! ## The barrel -/

theorem keeps_mapM {f : β → ExceptT RunError Behaviour α} {bs : List β}
    (h : ∀ b ∈ bs, Keeps R (f b).run) : Keeps R (bs.mapM f).run := by
  induction bs with
  | nil => exact keeps_pure _
  | cons b bs ih =>
    obtain ⟨hb, hbs⟩ := List.forall_mem_cons.1 h
    rw [List.mapM_cons]
    exact keeps_run_bind hb fun _ => keeps_run_bind (ih hbs) fun _ => keeps_pure _

section
variable {output directory : String} {library : Library} {ps : List Page}
  {files : List (String × String)} {written : List String}

theorem keeps_writeFolder (h : ∀ f ∈ files, (Path.join directory f.1, f.2.toUTF8) ∈ ρ.files) :
    Keeps (Changes ρ) (files.mapM fun f =>
      (writeSource (Path.join directory f.1) f.2 : ExceptT RunError Behaviour String)).run :=
  keeps_mapM fun f hf => keeps_writeSource (h f hf)

/-- Files that were written one after the other are read again. -/
theorem readFile_of_writeFolder
    (hplan : ∀ f ∈ files, (Path.join directory f.1, f.2.toUTF8) ∈ ρ.files)
    (honly : ∀ f ∈ files, ρ.Only d (Path.join directory f.1) f.2.toUTF8)
    (h : Ran (Changes ρ) (files.mapM fun f =>
      (writeSource (Path.join directory f.1) f.2 : ExceptT RunError Behaviour String)).run d
        (.ok written) d') :
    written = files.map (fun f => Path.join directory f.1) ∧
      ∀ f ∈ files, d'.readFile (Path.join directory f.1) = .ok f.2.toUTF8 := by
  induction files generalizing d written with
  | nil => exact ⟨Except.ok.inj (ran_pure.1 h).1, nofun⟩
  | cons f files ih =>
    obtain ⟨hfirst, hrest⟩ := List.forall_mem_cons.1 hplan
    obtain ⟨hfonly, hronly⟩ := List.forall_mem_cons.1 honly
    rw [List.mapM_cons] at h
    obtain ⟨w, m, hf, h⟩ := ran_run_bind_ok.1 h
    obtain ⟨ws, n, hfiles, h⟩ := ran_run_bind_ok.1 h
    obtain ⟨hws, hn⟩ := ran_pure.1 h
    have hdm : Changes ρ d m := hf.rel (keeps_writeSource hfirst)
    have hmd : Changes ρ m d' := (hfiles.tail hn).rel (keeps_writeFolder hrest)
    obtain ⟨rfl, hwrite⟩ := ran_writeSource_ok.1 hf
    obtain ⟨rfl, hall⟩ := ih hrest (fun g hg => (hronly g hg).congr hdm.current) (hfiles.tail hn)
    have hread := hmd.readFile (readFile_of_ran_writeFile hfonly hwrite) (hfonly.congr hdm.current)
    exact ⟨Except.ok.inj hws, List.forall_mem_cons.2 ⟨hread, hall⟩⟩

theorem keeps_writeLibrary (hplan : Plan.ofLibrary output library ps ⊆ ρ) :
    Keeps (Changes ρ)
      (writeLibrary output library ps : ExceptT RunError Behaviour (List String)).run :=
  keeps_run_bind (keeps_attempt (keeps_makeDirs hplan.1)) fun _ =>
    keeps_writeFolder fun f hf => hplan.2 ⟨f, hf, rfl⟩

/-- **A barrel that was written is there.** -/
theorem done_of_writeLibrary (hplan : Plan.ofLibrary output library ps ⊆ ρ)
    (honly : ∀ f ∈ Barrel.files library.moduleName ps,
      ρ.Only d (Path.join output f.1) f.2.toUTF8)
    (h : Ran (Changes ρ) (writeLibrary output library ps).run d (.ok written) d') :
    written = (Barrel.files library.moduleName ps).map (fun f => Path.join output f.1) ∧
      (Plan.ofLibrary output library ps).Done d' := by
  obtain ⟨u, m, hmake, h⟩ := ran_run_bind_ok.1 h
  have hmake := ran_attempt_ok.1 hmake
  have hdm : Changes ρ d m := hmake.rel (keeps_makeDirs hplan.1)
  have hfiles : ∀ f ∈ Barrel.files library.moduleName ps,
      (Path.join output f.1, f.2.toUTF8) ∈ ρ.files := fun f hf => hplan.2 ⟨f, hf, rfl⟩
  have hmd : Changes ρ m d' := h.rel (keeps_writeFolder hfiles)
  obtain ⟨rfl, hall⟩ := readFile_of_writeFolder hfiles
    (fun f hf => (honly f hf).congr hdm.current) h
  refine ⟨rfl, fun path hpath => ?_, ?_⟩
  · exact hmd.isDirectory (isDirectory_of_makeDirs hmake path hpath)
  · rintro path content ⟨f, hf, heq⟩
    obtain ⟨rfl, rfl⟩ := Prod.mk.inj heq
    exact hall f hf

end

end Behaviour

end Pagewright
