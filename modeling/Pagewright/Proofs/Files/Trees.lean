/-
  Disks on which everything is in a directory, and disks that hold the same.

  * `Disk.IsTree` is kept by every operation, and makes the places above
    something directories;
  * `Disk.Same`: no operation tells two disks apart that hold the same.
-/
import Mathlib.Data.List.Induction
import Pagewright.Proofs.Files.Operations

namespace Pagewright

namespace Disk

variable {d e : Disk} {path : String}

/-! ## Trees -/

/-- Whatever there is, is in a directory; and relative paths start from one. -/
structure IsTree (d : Disk) : Prop where
  current : d.IsDir d.current
  parent : ∀ l entry, d.find? l = some entry → d.IsDir l.dropLast

/-- A disk is a tree if every place at which something was put is in a directory. -/
theorem isTree_of_entries (hcurrent : d.IsDir d.current)
    (hentries : ∀ x ∈ d.entries, d.IsDir x.1.dropLast) : d.IsTree where
  current := hcurrent
  parent l entry hl := by
    unfold find? at hl
    split_ifs at hl with hnil
    · rw [hnil]
      exact d.isDir_nil
    · obtain ⟨xs, ys, hxs, -⟩ := List.lookup_eq_some_iff.1 hl
      exact hentries (l, entry) (by rw [hxs]; simp)

/-- The places above something are directories. -/
theorem IsTree.above (h : d.IsTree) {l top : Location} {entry : Entry}
    (hl : d.find? l = some entry) (htop : top <+: l) : top = l ∨ d.IsDir top := by
  induction l using List.reverseRecOn generalizing entry with
  | nil => exact Or.inl (List.prefix_nil.1 htop)
  | append_singleton l n ih =>
    rcases List.prefix_concat_iff.1 htop with htop | htop
    · exact Or.inl htop
    · have hdir : d.IsDir l := by simpa using h.parent _ _ hl
      rcases ih hdir htop with rfl | htop
      · exact Or.inr hdir
      · exact Or.inr htop

theorem IsDir.put {l loc : Location} {entry : Entry} (h : d.IsDir l)
    (hentry : d.IsDir loc → entry = .directory) : (d.put loc entry).IsDir l := by
  rw [IsDir, find?_put]
  split_ifs with heq
  · rw [hentry (heq.1 ▸ h)]
  · exact h

/-- What is put into a directory, and over no other one, leaves a tree. -/
theorem IsTree.put (h : d.IsTree) {loc : Location} {entry : Entry} (hloc : d.IsDir loc.dropLast)
    (hentry : d.IsDir loc → entry = .directory) : (d.put loc entry).IsTree where
  current := h.current.put hentry
  parent l entry' hl := by
    rw [find?_put] at hl
    split_ifs at hl with heq
    · rw [heq.1]
      exact hloc.put hentry
    · exact (h.parent l entry' hl).put hentry

theorem IsDir.place_dropLast (h : d.Open path) (hnew : Path.IsNew path) :
    d.IsDir (d.place path).dropLast := by
  obtain ⟨base, hbase, n, hplace⟩ := place_of_isNew hnew
  rw [hplace, List.dropLast_concat]
  exact h.way base hbase

theorem IsTree.makeDir (h : d.IsTree) {d' : Disk} (hd : d.makeDir path = .ok d') : d'.IsTree := by
  obtain ⟨hopen, hnew, -, rfl⟩ := makeDir_eq_ok_iff.1 hd
  exact h.put (IsDir.place_dropLast hopen hnew) fun _ => rfl

theorem IsTree.writeFile (h : d.IsTree) {content : ByteArray} {d' : Disk}
    (hd : d.writeFile path content = .ok d') : d'.IsTree := by
  obtain ⟨hopen, hnew, -, hplace, rfl⟩ := writeFile_eq_ok_iff.1 hd
  exact h.put (IsDir.place_dropLast hopen hnew) fun hdir => absurd hdir hplace

theorem IsTree.start (h : d.IsTree) (path : String) : d.IsDir (d.start path) := by
  unfold Disk.start
  split_ifs
  · exact d.isDir_nil
  · exact h.current

/-- In a tree, a path that leads through directories and whose last name cannot
    be new leads to a directory. -/
theorem IsTree.of_not_isNew (h : d.IsTree) (hopen : d.Open path) (hnew : ¬Path.IsNew path) :
    ∀ l ∈ d.trail path, d.IsDir l := by
  intro l hl
  rcases mem_trail_iff.1 hl with hl | rfl
  · exact hopen.way l hl
  have hbase : d.IsDir ((Path.approach path).foldl Location.follow (d.start path)) :=
    hopen.way _ (Location.foldl_mem_trail _ _)
  unfold place Path.solid
  unfold Path.approach at hbase
  rcases List.eq_nil_or_concat (Path.names path) with hnames | ⟨ns, n, hnames⟩
  · rw [hnames] at hbase ⊢
    exact hbase
  · rw [List.concat_eq_append] at hnames
    rw [hnames, List.dropLast_concat] at hbase
    rw [hnames, Path.solidNames_append, List.foldl_append]
    by_cases hdot : n = "."
    · subst hdot
      exact hbase
    by_cases hdots : n = ".."
    · subst hdots
      exact h.parent _ _ hbase
    · exact absurd ⟨n, by rw [hnames, List.getLast?_concat], hdot, hdots⟩ hnew

/-- In a tree, a path that is to be found where it starts can be found. -/
theorem IsTree.isOpen_of_start (h : d.IsTree) (hsound : Path.Sound path)
    (happroach : Path.approach path = []) : d.Open path := by
  refine ⟨hsound, fun l hl => ?_⟩
  rw [way, happroach] at hl
  obtain rfl := List.mem_singleton.1 hl
  exact h.start path

/-- In a tree, a path that is to be found in a directory can be found. -/
theorem IsTree.isOpen_of_parent (h : d.IsTree) (hsound : Path.Sound path) {parent : String}
    (happroach : Path.approach path = Path.solid parent)
    (habsolute : Path.isAbsolute path = Path.isAbsolute parent)
    (hparent : parent = "" ∨ d.isDirectory parent) : d.Open path := by
  refine ⟨hsound, fun l hl => ?_⟩
  have hl : l ∈ d.trail parent := by
    rw [way, happroach, Disk.start, habsolute] at hl
    exact hl
  rcases hparent with rfl | hdir
  · obtain rfl := List.mem_singleton.1 hl
    exact h.start ""
  · exact (isDirectory_iff.1 hdir).2 l hl

/-! ## Making and finding -/

theorem find?_put_place (hnew : Path.IsNew path) (entry : Entry) :
    (d.put (d.place path) entry).find? (d.place path) = some entry := by
  obtain ⟨base, -, n, hplace⟩ := place_of_isNew (d := d) hnew
  rw [find?_put, if_pos ⟨rfl, by simp [hplace]⟩]

/-- A directory that was made is one. -/
theorem isDirectory_of_makeDir {d' : Disk} (h : d.makeDir path = .ok d') :
    d'.isDirectory path := by
  obtain ⟨hopen, hnew, -, rfl⟩ := makeDir_eq_ok_iff.1 h
  refine isDirectory_iff.2 ⟨hopen.sound, fun l hl => ?_⟩
  rcases mem_trail_iff.1 hl with hl | rfl
  · exact (hopen.way l hl).put fun _ => rfl
  · exact find?_put_place hnew .directory

/-- A file that was written is read again. -/
theorem readFile_of_writeFile {content : ByteArray} {d' : Disk}
    (h : d.writeFile path content = .ok d') : d'.readFile path = .ok content := by
  obtain ⟨hopen, hnew, hslash, hdir, rfl⟩ := writeFile_eq_ok_iff.1 h
  refine readFile_eq_ok_iff.2 ⟨⟨hopen.sound, fun l hl => ?_⟩, ?_, hslash⟩
  · exact (hopen.way l hl).put fun h => absurd h hdir
  · exact find?_put_place hnew (.file content)

/-- In a tree, the last name of a file can be new. -/
theorem IsTree.isNew (h : d.IsTree) {content : ByteArray} (hfile : d.readFile path = .ok content) :
    Path.IsNew path := by
  obtain ⟨hopen, hfind, -⟩ := readFile_eq_ok_iff.1 hfile
  by_contra hnew
  have hdir := h.of_not_isNew hopen hnew _ (mem_trail_iff.2 (Or.inr rfl))
  cases hdir.symm.trans hfind

/-! ## The same disk -/

/-- Two disks hold the same, whatever the order it was put there. -/
structure Same (d e : Disk) : Prop where
  current : d.current = e.current
  find? : ∀ l, d.find? l = e.find? l

namespace Same

theorem refl (d : Disk) : Same d d := ⟨rfl, fun _ => rfl⟩

theorem put (h : Same d e) (loc : Location) (entry : Entry) :
    Same (d.put loc entry) (e.put loc entry) where
  current := h.current
  find? l := by rw [find?_put, find?_put, h.find?]

theorem enter (h : Same d e) (loc : Location) : d.enter loc = e.enter loc := by
  unfold Disk.enter
  rw [h.find?]

theorem walk (h : Same d e) (loc : Location) (ns : List String) :
    d.walk loc ns = e.walk loc ns := by
  induction ns generalizing loc with
  | nil => rfl
  | cons n ns ih =>
    rw [Disk.walk, Disk.walk, h.enter]
    simp only [ih]

theorem target (h : Same d e) (path : String) : d.target path = e.target path := by
  unfold Disk.target
  simp only [h.current, h.walk, h.enter]

theorem readFile (h : Same d e) (path : String) : d.readFile path = e.readFile path := by
  unfold Disk.readFile
  simp only [h.target, h.find?]

theorem isDirectory (h : Same d e) (path : String) : d.isDirectory path = e.isDirectory path := by
  unfold Disk.isDirectory resolve
  simp only [h.target, h.find?]

/-- Two outcomes of an operation: the same failure, or disks that hold the same. -/
def Alike : Except FileError Disk → Except FileError Disk → Prop
  | .ok d, .ok e => Same d e
  | .error a, .error b => a = b
  | _, _ => False

theorem Alike.of_place {t : Target} {f g : Location → Except FileError Disk}
    (h : ∀ l, Alike (f l) (g l)) : Alike (do f (← t.place)) (do g (← t.place)) := by
  cases t.place with
  | error a => rfl
  | ok l => exact h l

theorem Alike.of_target (h : Same d e) {f g : Target → Except FileError Disk}
    (hfg : ∀ t, Alike (f t) (g t)) :
    Alike (do f (← d.target path)) (do g (← e.target path)) := by
  rw [h.target]
  cases e.target path with
  | error a => rfl
  | ok t => exact hfg t

theorem makeDir (h : Same d e) (path : String) : Alike (d.makeDir path) (e.makeDir path) := by
  refine Alike.of_target h fun t => Alike.of_place fun l => ?_
  rw [h.find?]
  split_ifs
  · rfl
  · exact h.put l .directory

theorem writeFile (h : Same d e) (path : String) (content : ByteArray) :
    Alike (d.writeFile path content) (e.writeFile path content) := by
  refine Alike.of_target h fun t => ?_
  split_ifs
  · rfl
  · refine Alike.of_place fun l => ?_
    rw [h.find?]
    split_ifs
    · rfl
    · exact h.put l (.file content)

end Same

end Disk

end Pagewright
