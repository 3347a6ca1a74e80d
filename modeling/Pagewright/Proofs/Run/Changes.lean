/-
  What a run may change on a disk.

  * a `Plan` lists the directories that are to be made and the files that are to
    be written, `Changes plan` relates two disks that differ by it at most; it is
    what jobs side by side guarantee each other;
  * `Plan.Done`: everything that is planned is there;
  * `same_of_done`: two ways to get a plan done lead to disks that hold the same;
  * `Toward M d`: nothing on `d` is in the way of getting to `M`, and
    `Plan.OnTheWay`: nothing that is planned gets in the way.
-/
import Mathlib.Data.Set.Basic
import Mathlib.Order.Defs.Unbundled
import Pagewright.Proofs.Files.Trees

namespace Pagewright

/-! ## Places of one disk and another -/

namespace Disk

variable {d d' : Disk} (h : d'.current = d.current) (path : String)

include h

theorem start_congr : d'.start path = d.start path := by rw [start, start, h]

theorem place_congr : d'.place path = d.place path := by rw [place, place, start_congr h]

theorem way_congr : d'.way path = d.way path := by rw [way, way, start_congr h]

theorem trail_congr : d'.trail path = d.trail path := by rw [trail, trail, start_congr h]

end Disk

/-! ## Plans -/

/-- Directories to be made and files to be written, with their contents. -/
structure Plan where
  dirs : Set String
  files : Set (String × ByteArray)

namespace Plan

instance : Union Plan where
  union π ρ := ⟨π.dirs ∪ ρ.dirs, π.files ∪ ρ.files⟩

instance : HasSubset Plan where
  Subset π ρ := π.dirs ⊆ ρ.dirs ∧ π.files ⊆ ρ.files

variable {π ρ : Plan}

theorem subset_refl (π : Plan) : π ⊆ π := ⟨subset_rfl, subset_rfl⟩

theorem subset_trans {σ : Plan} (h : π ⊆ ρ) (h' : ρ ⊆ σ) : π ⊆ σ :=
  ⟨h.1.trans h'.1, h.2.trans h'.2⟩

theorem subset_union_left : π ⊆ π ∪ ρ := ⟨Set.subset_union_left, Set.subset_union_left⟩

theorem subset_union_right : ρ ⊆ π ∪ ρ := ⟨Set.subset_union_right, Set.subset_union_right⟩

/-- The directories that are to be made for a path to be one. -/
def dirsTo (path : String) : Set String := {a | a ∈ Path.ancestors path ∧ a ≠ ""}

/-- The directories that are to be made for a path to be found in one. -/
def dirsAbove (path : String) : Set String :=
  {a | ∃ parent, Path.parent? path = some parent ∧ a ∈ dirsTo parent}

/-- Nothing but a content is planned at the place of a path. -/
def Only (π : Plan) (d : Disk) (path : String) (content : ByteArray) : Prop :=
  ∀ p c, (p, c) ∈ π.files → d.place p = d.place path → c = content

theorem Only.congr {π : Plan} {d d' : Disk} {path : String} {content : ByteArray}
    (h : π.Only d path content) (hd : d'.current = d.current) : π.Only d' path content := by
  intro p c hp hplace
  rw [Disk.place_congr hd, Disk.place_congr hd] at hplace
  exact h p c hp hplace

theorem Only.union {π ρ : Plan} {d : Disk} {path : String} {content : ByteArray}
    (hπ : π.Only d path content) (hρ : ρ.Only d path content) :
    (π ∪ ρ).Only d path content :=
  fun p c hp => hp.elim (hπ p c) (hρ p c)

/-- All that is planned is there. -/
structure Done (π : Plan) (d : Disk) : Prop where
  dirs : ∀ path ∈ π.dirs, d.isDirectory path
  files : ∀ path content, (path, content) ∈ π.files → d.readFile path = .ok content

theorem Done.union {d : Disk} (hπ : π.Done d) (hρ : ρ.Done d) : (π ∪ ρ).Done d where
  dirs path h := h.elim (hπ.dirs path) (hρ.dirs path)
  files path content h := h.elim (hπ.files path content) (hρ.files path content)

end Plan

/-! ## Changes -/

/-- What can have happened at a place: nothing, or there was nothing and now there
    is a planned directory, or a planned file was written. -/
inductive Change (π : Plan) (d d' : Disk) (l : Location) : Prop where
  | same (h : d'.find? l = d.find? l)
  | made (h : d.find? l = none) (path : String) (hpath : path ∈ π.dirs) (hl : d.place path = l)
    (h' : d'.IsDir l)
  | written (h : ¬d.IsDir l) (path : String) (content : ByteArray)
    (hpath : (path, content) ∈ π.files) (hl : d.place path = l)
    (h' : d'.find? l = some (.file content))

/-- Two disks differ by what is planned at most. -/
structure Changes (π : Plan) (d d' : Disk) : Prop where
  current : d'.current = d.current
  tree : d.IsTree → d'.IsTree
  change : ∀ l, Change π d d' l

namespace Changes

variable {π ρ : Plan} {d m d' : Disk} {path : String} {l : Location}

theorem isDir (h : Changes π d d') (hl : d.IsDir l) : d'.IsDir l := by
  cases h.change l with
  | same hsame => exact hsame.trans hl
  | made hnone => cases hnone.symm.trans hl
  | written hdir => exact absurd hl hdir

theorem mono (hπ : π ⊆ ρ) (h : Changes π d d') : Changes ρ d d' where
  current := h.current
  tree := h.tree
  change l := by
    cases h.change l with
    | same hsame => exact .same hsame
    | made hnone path hpath hl hdir => exact .made hnone path (hπ.1 hpath) hl hdir
    | written hdir path content hpath hl hfile =>
      exact .written hdir path content (hπ.2 hpath) hl hfile

instance (π : Plan) : IsPreorder Disk (Changes π) where
  refl d := ⟨rfl, id, fun _ => .same rfl⟩
  trans d m d' h h' := by
    refine ⟨h'.current.trans h.current, fun ht => h'.tree (h.tree ht), fun l => ?_⟩
    cases h'.change l with
    | same hsame =>
      cases h.change l with
      | same hsame' => exact .same (hsame.trans hsame')
      | made hnone path hpath hl hdir => exact .made hnone path hpath hl (hsame.trans hdir)
      | written hdir path content hpath hl hfile =>
        exact .written hdir path content hpath hl (hsame.trans hfile)
    | made hnone path hpath hl hdir =>
      rw [Disk.place_congr h.current] at hl
      cases h.change l with
      | same hsame' => exact .made (hsame'.symm.trans hnone) path hpath hl hdir
      | made _ _ _ _ hdir' => cases hnone.symm.trans hdir'
      | written _ _ _ _ _ hfile => cases hnone.symm.trans hfile
    | written hdir path content hpath hl hfile =>
      rw [Disk.place_congr h.current] at hl
      exact .written (fun hd => hdir (h.isDir hd)) path content hpath hl hfile

/-! ### Operations -/

theorem of_makeDir (hpath : path ∈ π.dirs) (h : d.makeDir path = .ok d') : Changes π d d' := by
  have htree : d.IsTree → d'.IsTree := fun ht => ht.makeDir h
  obtain ⟨-, -, hnone, rfl⟩ := Disk.makeDir_eq_ok_iff.1 h
  refine ⟨rfl, htree, fun l => ?_⟩
  by_cases hl : l = d.place path ∧ l ≠ []
  · refine .made (hl.1 ▸ hnone) path hpath hl.1.symm ?_
    rw [Disk.IsDir, Disk.find?_put, if_pos hl]
  · refine .same ?_
    rw [Disk.find?_put, if_neg hl]

theorem of_writeFile {content : ByteArray} (hpath : (path, content) ∈ π.files)
    (h : d.writeFile path content = .ok d') : Changes π d d' := by
  have htree : d.IsTree → d'.IsTree := fun ht => ht.writeFile h
  obtain ⟨-, -, -, hdir, rfl⟩ := Disk.writeFile_eq_ok_iff.1 h
  refine ⟨rfl, htree, fun l => ?_⟩
  by_cases hl : l = d.place path ∧ l ≠ []
  · refine .written (hl.1 ▸ hdir) path content hpath hl.1.symm ?_
    rw [Disk.find?_put, if_pos hl]
  · refine .same ?_
    rw [Disk.find?_put, if_neg hl]

/-! ### What stays -/

theorem isOpen (h : Changes π d d') (hpath : d.Open path) : d'.Open path where
  sound := hpath.sound
  way l hl := h.isDir (hpath.way l (Disk.way_congr h.current path ▸ hl))

theorem isDirectory (h : Changes π d d') (hpath : d.isDirectory path) : d'.isDirectory path := by
  rw [Disk.isDirectory_iff] at hpath ⊢
  rw [Disk.trail_congr h.current]
  exact ⟨hpath.1, fun l hl => h.isDir (hpath.2 l hl)⟩

/-- A file keeps its content if nothing else is planned at its place. -/
theorem readFile (h : Changes π d d') {content : ByteArray}
    (hfile : d.readFile path = .ok content) (honly : π.Only d path content) :
    d'.readFile path = .ok content := by
  rw [Disk.readFile_eq_ok_iff] at hfile ⊢
  obtain ⟨hopen, hfind, hslash⟩ := hfile
  refine ⟨h.isOpen hopen, ?_, hslash⟩
  rw [Disk.place_congr h.current]
  cases h.change (d.place path) with
  | same hsame => exact hsame.trans hfind
  | made hnone => cases hnone.symm.trans hfind
  | written _ p c hp hl hwritten => rw [hwritten, honly p c hp hl]

/-- A file that nothing is planned at held before what it holds now, if its path
    leads up first. -/
theorem readFile_before (h : Changes π d d') (htree : d.IsTree) (hup : Path.UpFirst path)
    (hπ : ∀ p c, (p, c) ∈ π.files → d.place p ≠ d.place path) {content : ByteArray}
    (hfile : d'.readFile path = .ok content) : d.readFile path = .ok content := by
  rw [Disk.readFile_eq_ok_iff] at hfile ⊢
  obtain ⟨⟨hsound, hway⟩, hfind, hslash⟩ := hfile
  rw [Disk.way_congr h.current] at hway
  rw [Disk.place_congr h.current] at hfind
  have hfind' : d.find? (d.place path) = some (.file content) := by
    cases h.change (d.place path) with
    | same hsame => exact hsame.symm.trans hfind
    | made _ _ _ _ hdir => cases hfind.symm.trans hdir
    | written _ p c hp hl _ => exact absurd hl (hπ p c hp)
  refine ⟨⟨hsound, fun l hl => ?_⟩, hfind', hslash⟩
  rcases Disk.prefix_of_mem_trail hup (Disk.mem_trail_iff.2 (Or.inl hl)) with htop | htop
  · rcases htree.above (htree.start path) htop with rfl | hdir
    · exact htree.start path
    · exact hdir
  · rcases htree.above hfind' htop with rfl | hdir
    · cases (hway _ hl).symm.trans hfind
    · exact hdir

end Changes

/-! ## The same end -/

namespace Plan

variable {π ρ : Plan} {d M N : Disk}

/-- Something is planned wherever the other plan has something. -/
structure Covers (π ρ : Plan) : Prop where
  dirs : ρ.dirs ⊆ π.dirs
  files : ∀ path content, (path, content) ∈ ρ.files → ∃ content', (path, content') ∈ π.files

theorem Covers.union {π' ρ' : Plan} (h : π.Covers ρ) (h' : π'.Covers ρ') :
    (π ∪ π').Covers (ρ ∪ ρ') where
  dirs path hpath := hpath.elim (fun hp => Or.inl (h.dirs hp)) fun hp => Or.inr (h'.dirs hp)
  files path content hpath := by
    rcases hpath with hpath | hpath
    · obtain ⟨content', hpath'⟩ := h.files path content hpath
      exact ⟨content', Or.inl hpath'⟩
    · obtain ⟨content', hpath'⟩ := h'.files path content hpath
      exact ⟨content', Or.inr hpath'⟩

theorem covers_self (π : Plan) : π.Covers π := ⟨subset_rfl, fun _ content h => ⟨content, h⟩⟩

theorem Done.isDir (h : π.Done M) {path : String} (hpath : path ∈ π.dirs) :
    M.IsDir (M.place path) :=
  (Disk.isDirectory_iff.1 (h.dirs path hpath)).2 _ (Disk.mem_trail_iff.2 (Or.inr rfl))

theorem Done.find? (h : π.Done M) {path : String} {content : ByteArray}
    (hpath : (path, content) ∈ π.files) : M.find? (M.place path) = some (.file content) :=
  (Disk.readFile_eq_ok_iff.1 (h.files path content hpath)).2.1

/-- A disk on which a plan is done, together with all that may change on the way. -/
structure Goal (π ρ : Plan) (M : Disk) : Prop where
  tree : M.IsTree
  done : π.Done M
  covers : π.Covers ρ

/-- **Two disks on which a plan is done, and that have come from the same disk by
    it, hold the same.** -/
theorem same_of_done (hcovers : π.Covers ρ) (hM : Changes ρ d M) (hN : Changes ρ d N)
    (hdoneM : π.Done M) (hdoneN : π.Done N) : M.Same N := by
  refine ⟨hM.current.trans hN.current.symm, fun l => ?_⟩
  by_cases hfile : ∃ path content, (path, content) ∈ π.files ∧ d.place path = l
  · obtain ⟨path, content, hpath, rfl⟩ := hfile
    have hfindM := hdoneM.find? hpath
    have hfindN := hdoneN.find? hpath
    rw [Disk.place_congr hM.current] at hfindM
    rw [Disk.place_congr hN.current] at hfindN
    rw [hfindM, hfindN]
  by_cases hdir : ∃ path ∈ π.dirs, d.place path = l
  · obtain ⟨path, hpath, rfl⟩ := hdir
    have hdirM := hdoneM.isDir hpath
    have hdirN := hdoneN.isDir hpath
    rw [Disk.place_congr hM.current] at hdirM
    rw [Disk.place_congr hN.current] at hdirN
    exact hdirM.trans hdirN.symm
  have hsame : ∀ {K : Disk}, Changes ρ d K → K.find? l = d.find? l := by
    intro K hK
    cases hK.change l with
    | same hsame => exact hsame
    | made _ path hpath hl => exact absurd ⟨path, hcovers.dirs hpath, hl⟩ hdir
    | written _ path content hpath hl =>
      obtain ⟨content', hpath'⟩ := hcovers.files path content hpath
      exact absurd ⟨path, content', hpath', hl⟩ hfile
  rw [hsame hM, hsame hN]

end Plan

/-! ## On the way -/

/-- Nothing on a tree is in the way of getting to a disk. -/
structure Toward (M d : Disk) : Prop where
  current : d.current = M.current
  tree : d.IsTree
  no_file : ∀ l, M.IsDir l → ∀ content, d.find? l ≠ some (.file content)
  no_dir : ∀ l content, M.find? l = some (.file content) → ¬d.IsDir l

namespace Toward

variable {π ρ : Plan} {M d d' : Disk}

/-- What has been got to can be got to. -/
theorem of_changes (htree : d.IsTree) (h : Changes ρ d M) : Toward M d where
  current := h.current.symm
  tree := htree
  no_file l hdir content hfile := by
    cases h.change l with
    | same hsame => cases (hsame.symm.trans hdir).symm.trans hfile
    | made hnone => cases hnone.symm.trans hfile
    | written _ _ _ _ _ hfile' => cases hdir.symm.trans hfile'
  no_dir l content hfile hdir := by cases (h.isDir hdir).symm.trans hfile

/-- Changes that are planned for a disk do not get in the way of it. -/
theorem changes (h : Toward M d) (hgoal : Plan.Goal π ρ M) (hd : Changes ρ d d') :
    Toward M d' where
  current := hd.current.trans h.current
  tree := hd.tree h.tree
  no_file l hdir content hfile := by
    cases hd.change l with
    | same hsame => exact h.no_file l hdir content (hsame.symm.trans hfile)
    | made _ _ _ _ hdir' => cases hdir'.symm.trans hfile
    | written _ path content' hpath hl =>
      obtain ⟨content'', hpath'⟩ := hgoal.covers.files path content' hpath
      have hfind := hgoal.done.find? hpath'
      rw [← Disk.place_congr h.current, hl] at hfind
      cases hdir.symm.trans hfind
  no_dir l content hfile hdir := by
    cases hd.change l with
    | same hsame => exact h.no_dir l content hfile (hsame.symm.trans hdir)
    | made _ path hpath hl =>
      have hdir' := hgoal.done.isDir (hgoal.covers.dirs hpath)
      rw [← Disk.place_congr h.current, hl] at hdir'
      cases hdir'.symm.trans hfile
    | written _ _ _ _ _ hfile' => cases hdir.symm.trans hfile'

/-- A directory that cannot be made on the way to a disk on which it is one is
    there already, or one above it is missing. -/
theorem of_makeDir_error (h : Toward M d) {path : String} (hdir : M.isDirectory path)
    {e : FileError} (hfail : d.makeDir path = .error e) :
    d.isDirectory path ∨ e = .notFound ∧ ¬d.Open path := by
  obtain ⟨hsound, htrail⟩ := Disk.isDirectory_iff.1 hdir
  have hno : ∀ l ∈ d.trail path, ∀ c, d.find? l ≠ some (.file c) := by
    intro l hl
    rw [Disk.trail_congr h.current] at hl
    exact h.no_file l (htrail l hl)
  rcases Disk.makeDir_eq_error hsound (fun l hl => hno l (Disk.mem_trail_iff.2 (Or.inl hl))) hfail
    with hmissing | ⟨hopen, hthere⟩
  · exact Or.inr hmissing
  · refine Or.inl (Disk.isDirectory_iff.2 ⟨hsound, fun l hl => ?_⟩)
    by_cases hnew : Path.IsNew path
    · rcases Disk.mem_trail_iff.1 hl with hway | rfl
      · exact hopen.way l hway
      · have hsome := hthere.resolve_left (not_not.2 hnew)
        obtain ⟨entry, hentry⟩ := Option.isSome_iff_exists.1 hsome
        cases entry with
        | directory => exact hentry
        | file c => exact absurd hentry (hno _ hl c)
    · exact h.tree.of_not_isNew hopen hnew l hl

end Toward

namespace Plan

variable {π ρ : Plan} {M d d' : Disk}

/-- A plan is done on a disk, and nothing of all that is planned gets in the way
    of it. -/
structure OnTheWay (π ρ : Plan) (M d : Disk) : Prop where
  tree : M.IsTree
  done : π.Done M
  planned : π ⊆ ρ
  toward : ∀ d', Changes ρ d d' → Toward M d'

theorem OnTheWay.changes (h : OnTheWay π ρ M d) (hd : Changes ρ d d') : OnTheWay π ρ M d' where
  tree := h.tree
  done := h.done
  planned := h.planned
  toward d'' hd' := h.toward d'' (Trans.trans hd hd')

theorem Goal.onTheWay (h : Goal π ρ M) (hplan : π ⊆ ρ) (hM : Toward M d) : OnTheWay π ρ M d where
  tree := h.tree
  done := h.done
  planned := hplan
  toward _ hd := hM.changes h hd

end Plan

end Pagewright
