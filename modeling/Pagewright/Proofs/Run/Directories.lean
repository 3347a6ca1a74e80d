/-
  Making directories while others are at work.

  * `isDirectory_of_makeDirs`: directories that were made are there;
  * `succeeds_makeDirs`: nothing fails on the way to a disk on which they are
    there, since nobody puts a file in their place.
-/
import Pagewright.Proofs.Run.Changes
import Pagewright.Proofs.Run.Executions

namespace Pagewright

open FileSystem

namespace Behaviour

variable {R : Disk → Disk → Prop} {ε α β : Type} {d d' : Disk}

/-! ## Jobs that can fail -/

/-- A job does not fail, whatever others do. -/
def Succeeds (R : Disk → Disk → Prop) (x : Behaviour (Except ε α)) (d : Disk) : Prop :=
  ∀ r d', Ran R x d r d' → ∃ a, r = .ok a

theorem Succeeds.mono {R' : Disk → Disk → Prop} (hR : ∀ d d', R d d' → R' d d')
    {x : Behaviour (Except ε α)} (h : Succeeds R' x d) : Succeeds R x d :=
  fun r d' hx => h r d' (hx.mono hR)

theorem succeeds_pure (a : α) : Succeeds R (pure (.ok a) : Behaviour (Except ε α)) d :=
  fun _ _ h => ⟨a, (ran_pure.1 h).1⟩

section
variable {x : ExceptT ε Behaviour α} {f : α → ExceptT ε Behaviour β}

theorem keeps_run_bind (hx : Keeps R x.run) (hf : ∀ a, Keeps R (f a).run) :
    Keeps R (x >>= f).run := by
  refine Keeps.bind hx fun r => ?_
  cases r with
  | ok a => exact hf a
  | error e => exact keeps_pure _

variable [IsPreorder Disk R]

theorem ran_run_bind_ok {b : β} :
    Ran R (x >>= f).run d (.ok b) d' ↔
      ∃ a m, Ran R x.run d (.ok a) m ∧ Ran R (f a).run m (.ok b) d' := by
  refine ran_bind.trans ⟨?_, ?_⟩
  · rintro ⟨r, m, hx, hf⟩
    cases r with
    | ok a => exact ⟨a, m, hx, hf⟩
    | error e => cases (ran_pure.1 hf).1
  · rintro ⟨a, m, hx, hf⟩
    exact ⟨.ok a, m, hx, hf⟩

theorem succeeds_run_bind (hx : Succeeds R x.run d)
    (hf : ∀ a m, Ran R x.run d (.ok a) m → Succeeds R (f a).run m) :
    Succeeds R (x >>= f).run d := by
  intro r d' h
  obtain ⟨s, m, hxs, h⟩ := ran_bind.1 h
  obtain ⟨a, rfl⟩ := hx s m hxs
  exact hf a m hxs r d' h

end

/-! ## One directory -/

variable {π ρ : Plan} {M : Disk} {path : String}

theorem keeps_settleDir (h : path ∈ ρ.dirs) :
    Keeps (Changes ρ) (settleDir path : Behaviour (Except FileError Unit)) := by
  refine (keeps_makeDir fun _ _ => Changes.of_makeDir h).bind fun r => ?_
  cases r with
  | ok u => exact keeps_pure _
  | error e =>
    refine (keeps_isDirectory path).bind fun b => ?_
    cases b <;> exact keeps_pure _

/-- A directory that was settled is there. -/
theorem isDirectory_of_settleDir
    (h : Ran (Changes ρ) (settleDir path : Behaviour (Except FileError Unit)) d (.ok ()) d') :
    d'.isDirectory path := by
  obtain ⟨r, m, hmake, h⟩ := ran_bind.1 h
  cases r with
  | ok u =>
    obtain ⟨k, n, -, hout | ⟨e, he, -⟩, hn⟩ := ran_makeDir.1 hmake
    · exact ((ran_pure.1 h).2).isDirectory (hn.isDirectory (Disk.isDirectory_of_makeDir hout.2))
    · cases he
  | error e =>
    obtain ⟨b, k, hb, h⟩ := ran_bind.1 h
    cases b with
    | false => cases (ran_pure.1 h).1
    | true =>
      obtain ⟨n, -, hdir, hn⟩ := ran_isDirectory.1 hb
      exact ((ran_pure.1 h).2).isDirectory (hn.isDirectory hdir)

/-- On the way to a disk on which it is one, a directory is settled, or one above
    it is missing. -/
theorem settleDir_cases (hway : Plan.OnTheWay π ρ M d) (hpath : path ∈ π.dirs)
    {r : Except FileError Unit}
    (h : Ran (Changes ρ) (settleDir path : Behaviour (Except FileError Unit)) d r d') :
    r = .ok () ∨ r = .error .notFound ∧ ¬d.Open path := by
  obtain ⟨r', m, hmake, h⟩ := ran_bind.1 h
  cases r' with
  | ok u => exact Or.inl (ran_pure.1 h).1
  | error e =>
    obtain ⟨_, k, hk, hout | ⟨e', he', hfail, rfl⟩, hn⟩ := ran_makeDir.1 hmake
    · cases hout.1
    obtain rfl := Except.error.inj he'
    obtain ⟨b, j, hb, h⟩ := ran_bind.1 h
    cases b with
    | true => exact Or.inl (ran_pure.1 h).1
    | false =>
      obtain ⟨i, hi, hib, -⟩ := ran_isDirectory.1 hb
      rcases (hway.toward k hk).of_makeDir_error (hway.done.dirs path hpath) hfail with
        hdir | ⟨rfl, hopen⟩
      · have hdir' : i.isDirectory path := hi.isDirectory (hn.isDirectory hdir)
        rw [hdir'] at hib
        cases hib
      · exact Or.inr ⟨(ran_pure.1 h).1, fun ho => hopen (hk.isOpen ho)⟩

/-! ## Directories above directories -/

theorem keeps_makeDirsFrom {paths : List String} (h : ∀ a ∈ paths, a ≠ "" → a ∈ ρ.dirs) :
    Keeps (Changes ρ) (makeDirsFrom paths : Behaviour (Except FileError Unit)) := by
  induction paths with
  | nil => exact keeps_pure _
  | cons a paths ih =>
    obtain ⟨ha, hpaths⟩ := List.forall_mem_cons.1 h
    unfold makeDirsFrom
    by_cases hempty : a = ""
    · rw [if_pos hempty]
      exact keeps_pure _
    · rw [if_neg hempty]
      refine (keeps_settleDir (ha hempty)).bind fun r => ?_
      split
      · refine (ih hpaths).bind fun r => ?_
        cases r with
        | ok u => exact keeps_settleDir (ha hempty)
        | error e => exact keeps_pure _
      · exact keeps_pure _

theorem keeps_makeDirs (h : Plan.dirsTo path ⊆ ρ.dirs) :
    Keeps (Changes ρ) (makeDirs path : Behaviour (Except FileError Unit)) :=
  keeps_makeDirsFrom fun _ ha hempty => h ⟨ha, hempty⟩

/-- The first of directories that were made is there. -/
theorem isDirectory_of_makeDirsFrom {paths : List String}
    (h : Ran (Changes ρ) (makeDirsFrom paths : Behaviour (Except FileError Unit)) d (.ok ()) d') :
    ∀ a ∈ paths.head?, a = "" ∨ d'.isDirectory a := by
  cases paths with
  | nil => exact nofun
  | cons a paths =>
    intro b hb
    obtain rfl := Option.some.inj hb
    by_cases hempty : a = ""
    · exact Or.inl hempty
    unfold makeDirsFrom at h
    rw [if_neg hempty] at h
    obtain ⟨r, m, hsettle, h⟩ := ran_bind.1 h
    split at h
    · obtain ⟨r, k, hmake, h⟩ := ran_bind.1 h
      cases r with
      | ok u => exact Or.inr (isDirectory_of_settleDir h)
      | error e => cases (ran_pure.1 h).1
    · obtain ⟨rfl, hm⟩ := ran_pure.1 h
      exact Or.inr (isDirectory_of_settleDir (hsettle.tail hm))

/-- A directory that was made is there, with those above it. -/
theorem isDirectory_of_makeDirs
    (h : Ran (Changes ρ) (makeDirs path : Behaviour (Except FileError Unit)) d (.ok ()) d') :
    ∀ a ∈ Plan.dirsTo path, d'.isDirectory a := by
  rintro a ⟨ha, hempty⟩
  have hpath : path = "" ∨ d'.isDirectory path := isDirectory_of_makeDirsFrom h path rfl
  rcases List.mem_cons.1 ha with rfl | ha
  · exact hpath.resolve_left hempty
  · have habove := Path.above_of_mem ha
    rcases hpath with rfl | hdir
    · cases ha
    · obtain ⟨hsound, htrail⟩ := Disk.isDirectory_iff.1 hdir
      exact Disk.isDirectory_iff.2 ⟨hsound.of_above habove hempty,
        fun l hl => htrail l (Disk.trail_subset_of_above habove hl)⟩

/-- On the way to a disk on which they are there, the first of some directories
    is made: if it is not found at first, the next is made before it. -/
theorem succeeds_makeDirsFrom (hway : Plan.OnTheWay π ρ M d) {paths : List String}
    (hladder : Path.Ladder paths) (hpaths : ∀ a ∈ paths, a ≠ "" → a ∈ π.dirs) :
    Succeeds (Changes ρ) (makeDirsFrom paths : Behaviour (Except FileError Unit)) d := by
  induction paths generalizing d with
  | nil => exact hladder.elim
  | cons a paths ih =>
    intro r d' h
    obtain ⟨ha, hrest⟩ := List.forall_mem_cons.1 hpaths
    unfold makeDirsFrom at h
    by_cases hempty : a = ""
    · rw [if_pos hempty] at h
      exact ⟨(), (ran_pure.1 h).1⟩
    rw [if_neg hempty] at h
    obtain ⟨r₁, m, hsettle, h⟩ := ran_bind.1 h
    rcases settleDir_cases hway (ha hempty) hsettle with rfl | ⟨rfl, hopen⟩
    · exact ⟨(), (ran_pure.1 h).1⟩
    obtain ⟨hsound, -⟩ := Disk.isDirectory_iff.1 (hway.done.dirs a (ha hempty))
    have htree : d.IsTree := (hway.toward d (refl d)).tree
    cases paths with
    | nil => exact absurd (htree.isOpen_of_start hsound (hladder.resolve_left hempty)) hopen
    | cons b paths =>
      obtain ⟨happroach, habsolute, hladder⟩ := hladder
      have hdm : Changes ρ d m := hsettle.rel (keeps_settleDir (hway.planned.1 (ha hempty)))
      obtain ⟨r₂, k, hmake, h⟩ := ran_bind.1 h
      obtain ⟨u, rfl⟩ := ih (hway.changes hdm) hladder hrest r₂ k hmake
      have hmk : Changes ρ m k := hmake.rel
        (keeps_makeDirsFrom fun c hc hne => hway.planned.1 (hrest c hc hne))
      have hopen' : k.Open a := (hmk.tree (hdm.tree htree)).isOpen_of_parent hsound happroach
        habsolute (isDirectory_of_makeDirsFrom hmake b rfl)
      rcases settleDir_cases ((hway.changes hdm).changes hmk) (ha hempty) h with rfl | ⟨-, hclosed⟩
      · exact ⟨(), rfl⟩
      · exact absurd hopen' hclosed

theorem succeeds_makeDirs (hway : Plan.OnTheWay π ρ M d) (htidy : Path.Tidy path)
    (hpath : Plan.dirsTo path ⊆ π.dirs) :
    Succeeds (Changes ρ) (makeDirs path : Behaviour (Except FileError Unit)) d :=
  succeeds_makeDirsFrom hway (Path.ladder_ancestors htidy) fun _ ha hempty => hpath ⟨ha, hempty⟩

/-! ## The directory a path is to be found in -/

theorem makeParent_eq (path : String) :
    (makeParent path : Behaviour (Except FileError Unit)) =
      match Path.parent? path with
      | none => pure (.ok ())
      | some parent => makeDirs parent := by
  unfold makeParent
  cases Path.parent? path with
  | none => rfl
  | some parent =>
    by_cases hempty : parent = ""
    · subst hempty
      rfl
    · split <;> simp_all

theorem keeps_makeParent (h : Plan.dirsAbove path ⊆ ρ.dirs) :
    Keeps (Changes ρ) (makeParent path : Behaviour (Except FileError Unit)) := by
  rw [makeParent_eq]
  cases hparent : Path.parent? path with
  | none => exact keeps_pure _
  | some parent => exact keeps_makeDirs fun a ha => h ⟨parent, hparent, ha⟩

theorem isDirectory_of_makeParent
    (h : Ran (Changes ρ) (makeParent path : Behaviour (Except FileError Unit)) d (.ok ()) d') :
    ∀ a ∈ Plan.dirsAbove path, d'.isDirectory a := by
  rintro a ⟨parent, hparent, ha⟩
  rw [makeParent_eq, hparent] at h
  exact isDirectory_of_makeDirs h a ha

theorem succeeds_makeParent (hway : Plan.OnTheWay π ρ M d)
    (hpath : Plan.dirsAbove path ⊆ π.dirs) :
    Succeeds (Changes ρ) (makeParent path : Behaviour (Except FileError Unit)) d := by
  rw [makeParent_eq]
  cases hparent : Path.parent? path with
  | none => exact succeeds_pure ()
  | some parent =>
    have habove : Path.Above path parent := Path.above_of_mem (List.mem_of_mem_head? hparent)
    exact succeeds_makeDirs hway habove.tidy fun a ha => hpath ⟨parent, hparent, ha⟩

/-- Once the directory is made, a path leads there. -/
theorem isOpen_of_makeParent (htree : d'.IsTree) (hsound : Path.Sound path)
    (hnew : Path.IsNew path)
    (h : Ran (Changes ρ) (makeParent path : Behaviour (Except FileError Unit)) d (.ok ()) d') :
    d'.Open path := by
  cases hparent : Path.parent? path with
  | none =>
    have happroach := (Path.approach_of_no_parent hnew.tidy hparent).resolve_left hsound.ne_empty
    exact htree.isOpen_of_start hsound happroach
  | some parent =>
    obtain ⟨happroach, habsolute⟩ := Path.approach_of_parent hnew.tidy hparent
    refine htree.isOpen_of_parent hsound happroach habsolute ?_
    by_cases hempty : parent = ""
    · exact Or.inl hempty
    · exact Or.inr (isDirectory_of_makeParent h parent
        ⟨parent, hparent, List.mem_cons_self, hempty⟩)

end Behaviour

end Pagewright
