/-
  What the operations on files do.

  * `Path.Sound` are the paths the system takes, `Path.IsNew` those whose last
    name may be given to something new;
  * one lemma for each operation: it succeeds exactly if the path is sound, all
    places on its way are directories and there is at its place what has to be
    there, and what it does then.
-/
import Pagewright.Proofs.Files.Places

namespace Pagewright

/-! ## Paths that can be used -/

/-- A path that the system takes: every name and the whole of it are short
    enough. -/
structure Path.Sound (path : String) : Prop where
  ne_empty : path ≠ ""
  no_null : path.toList.any (·.toNat == 0) = false
  size : path.utf8ByteSize ≤ Disk.maxPath
  names : ∀ n ∈ Path.names path, n.utf8ByteSize ≤ Disk.maxName

/-- A path whose last name may be given to something new. -/
def Path.IsNew (path : String) : Prop :=
  ∃ n, (Path.names path).getLast? = some n ∧ n ≠ "." ∧ n ≠ ".."

theorem Path.IsNew.tidy {path : String} (h : Path.IsNew path) : Path.Tidy path := by
  obtain ⟨n, hlast, hdot, -⟩ := h
  exact Path.tidy_of_getLast? hlast hdot

/-- A path whose beginning is taken is taken as far as the beginning goes. -/
theorem Path.Sound.of_above {path a : String} (h : Path.Sound path) (ha : Path.Above path a)
    (hne : a ≠ "") : Path.Sound a where
  ne_empty := hne
  no_null := by
    obtain ⟨cs, hcs⟩ := ha.text
    have hpath := h.no_null
    rw [← hcs, List.any_append, Bool.or_eq_false_iff] at hpath
    exact hpath.1
  size := by
    obtain ⟨cs, hcs⟩ := ha.text
    have hpath : path = a ++ String.ofList cs := String.toList_inj.1 (by simp [hcs])
    have hsize := h.size
    rw [hpath, String.utf8ByteSize_append] at hsize
    exact Nat.le_trans (Nat.le_add_right _ _) hsize
  names n hn := h.names n (ha.names.subset hn)

namespace Disk

variable {d : Disk} {path : String}

/-! ## Targets -/

/-- What a path leads to if all that is on its way is a directory. -/
def aim (d : Disk) (path : String) : Target where
  base := (Path.approach path).foldl Location.follow (d.start path)
  last := (Path.names path).getLast?
  slash := Path.endsInSlash path

theorem isNew_aim : (d.aim path).isNew ↔ Path.IsNew path := by
  unfold Target.isNew aim Path.IsNew
  cases (Path.names path).getLast? <;> simp

/-- The place of a target, if its last name is short enough. -/
theorem place_aim {l : Location} :
    (d.aim path).place = .ok l ↔
      (∀ n ∈ (Path.names path).getLast?, n.utf8ByteSize ≤ maxName) ∧ l = d.place path := by
  unfold Target.place aim place Path.approach Path.solid
  rcases List.eq_nil_or_concat (Path.names path) with h | ⟨ns, n, h⟩
  · rw [h]
    exact ⟨fun h => ⟨nofun, (Except.ok.inj h).symm⟩, fun h => congrArg _ h.2.symm⟩
  · rw [h, List.concat_eq_append, List.getLast?_concat, List.dropLast_concat,
      Path.solidNames_append, List.foldl_append]
    show step _ n = .ok l ↔ _
    rw [step_eq_ok_iff]
    simp

/-- A directory that is walked to and entered. -/
theorem enter_walk_eq_ok_iff {α : Type} {loc : Location} {ns : List String} {f : Location → α}
    {a : α} :
    (do let base ← d.walk loc ns; d.enter base; Except.ok (f base)) = .ok a ↔
      ∃ base, (d.walk loc ns = .ok base ∧ d.IsDir base) ∧ f base = a := by
  cases d.walk loc ns with
  | error e => exact ⟨nofun, nofun⟩
  | ok base =>
    constructor
    · intro h
      cases henter : d.enter base with
      | error e =>
        have h : (do d.enter base; Except.ok (f base)) = .ok a := h
        rw [henter] at h
        cases h
      | ok u =>
        have h : (do d.enter base; Except.ok (f base)) = .ok a := h
        rw [henter] at h
        exact ⟨base, ⟨rfl, enter_eq_ok_iff.1 henter⟩, Except.ok.inj h⟩
    · rintro ⟨_, ⟨h, hdir⟩, rfl⟩
      obtain rfl := Except.ok.inj h
      show (do d.enter base; Except.ok (f base)) = _
      rw [enter_eq_ok_iff.2 hdir]
      rfl

/-- A path has a target exactly if all its names but the last are short enough,
    and so is the whole, and all places on its way are directories. -/
theorem target_eq_ok_iff {t : Target} :
    d.target path = .ok t ↔
      (path ≠ "" ∧ path.toList.any (·.toNat == 0) = false ∧ path.utf8ByteSize ≤ maxPath ∧
        ∀ n ∈ (Path.names path).dropLast, n.utf8ByteSize ≤ maxName) ∧
      (∀ l ∈ d.way path, d.IsDir l) ∧ d.aim path = t := by
  unfold target
  by_cases hempty : path = ""
  · rw [if_pos hempty]
    exact ⟨nofun, fun h => absurd hempty h.1.1⟩
  rw [if_neg hempty]
  cases hnull : path.toList.any (·.toNat == 0) with
  | true => exact ⟨nofun, fun h => absurd h.1.2.1 (by simp)⟩
  | false =>
    rw [if_neg (by simp)]
    by_cases hlong : maxPath < path.utf8ByteSize
    · rw [if_pos hlong]
      exact ⟨nofun, fun h => absurd h.1.2.2.1 (Nat.not_le.2 hlong)⟩
    rw [if_neg hlong]
    refine enter_walk_eq_ok_iff.trans ⟨?_, ?_⟩
    · rintro ⟨base, hwalk, rfl⟩
      obtain ⟨hnames, hway, rfl⟩ := walk_eq_ok_iff.1 hwalk
      exact ⟨⟨hempty, rfl, Nat.not_lt.1 hlong, hnames⟩, hway, rfl⟩
    · rintro ⟨⟨-, -, -, hnames⟩, hway, rfl⟩
      exact ⟨_, walk_eq_ok_iff.2 ⟨hnames, hway, rfl⟩, rfl⟩

theorem target_of_sound (h : Path.Sound path) (hway : ∀ l ∈ d.way path, d.IsDir l) :
    d.target path = .ok (d.aim path) :=
  target_eq_ok_iff.2 ⟨⟨h.ne_empty, h.no_null, h.size,
    fun n hn => h.names n (List.dropLast_subset _ hn)⟩, hway, rfl⟩

theorem place_of_sound (h : Path.Sound path) : (d.aim path).place = .ok (d.place path) :=
  place_aim.2 ⟨fun n hn => h.names n (List.mem_of_mem_getLast? hn), rfl⟩

/-- What is known of a path once it has a target with a place. -/
theorem of_target {t : Target} {l : Location} (ht : d.target path = .ok t)
    (hl : t.place = .ok l) :
    Path.Sound path ∧ (∀ l ∈ d.way path, d.IsDir l) ∧ t = d.aim path ∧ l = d.place path := by
  obtain ⟨⟨hempty, hnull, hsize, hnames⟩, hway, rfl⟩ := target_eq_ok_iff.1 ht
  obtain ⟨hlast, rfl⟩ := place_aim.1 hl
  refine ⟨⟨hempty, hnull, hsize, fun n hn => ?_⟩, hway, rfl, rfl⟩
  rcases List.eq_nil_or_concat (Path.names path) with h | ⟨ns, m, h⟩
  · rw [h] at hn
    cases hn
  · rw [List.concat_eq_append] at h
    rw [h, List.dropLast_concat] at hnames
    rw [h, List.getLast?_concat] at hlast
    rw [h, List.mem_append, List.mem_singleton] at hn
    rcases hn with hn | rfl
    · exact hnames n hn
    · exact hlast n rfl

/-- Where no file is on its way, all that a sound path can lack is a directory. -/
theorem target_eq_error (h : Path.Sound path)
    (hway : ∀ l ∈ d.way path, ∀ c, d.find? l ≠ some (.file c)) {e : FileError}
    (he : d.target path = .error e) : e = .notFound := by
  unfold target at he
  rw [if_neg h.ne_empty, h.no_null, if_neg (by simp), if_neg (Nat.not_lt.2 h.size)] at he
  refine walk_eq_error (fun n hn => h.names n (List.dropLast_subset _ hn)) hway ?_
  revert he
  show (do let base ← d.walk (d.start path) (Path.names path).dropLast; d.enter base; _) = _ → _
  cases d.walk (d.start path) (Path.names path).dropLast with
  | error e' => exact fun h => congrArg _ (Except.error.inj h)
  | ok base =>
    show (do d.enter base; Except.ok _) = _ → d.enter base = _
    cases d.enter base with
    | error e' => exact fun h => congrArg _ (Except.error.inj h)
    | ok u => exact nofun

/-! ## Operations -/

/-- A path that is taken, and leads through directories to where its last name is
    to be found. -/
structure Open (d : Disk) (path : String) : Prop where
  sound : Path.Sound path
  way : ∀ l ∈ d.way path, d.IsDir l

/-- What is done at the place of a target is done at the place of the path. -/
theorem at_place_eq_ok_iff {α : Type} {f : Target → Location → Except FileError α} {a : α} :
    (do let t ← d.target path; f t (← t.place)) = .ok a ↔
      d.Open path ∧ f (d.aim path) (d.place path) = .ok a := by
  constructor
  · intro h
    cases ht : d.target path with
    | error e =>
      rw [ht] at h
      cases h
    | ok t =>
      have h : (do f t (← t.place)) = .ok a := by rw [ht] at h; exact h
      cases hl : t.place with
      | error e =>
        rw [hl] at h
        cases h
      | ok l =>
        obtain ⟨hsound, hway, rfl, rfl⟩ := of_target ht hl
        rw [hl] at h
        exact ⟨⟨hsound, hway⟩, h⟩
  · rintro ⟨hopen, h⟩
    rw [target_of_sound hopen.sound hopen.way]
    show (do f (d.aim path) (← (d.aim path).place)) = .ok a
    rw [place_of_sound hopen.sound]
    exact h

/-- **A file is read** exactly if it is there, and no slash follows its name. -/
theorem readFile_eq_ok_iff {content : ByteArray} :
    d.readFile path = .ok content ↔
      d.Open path ∧ d.find? (d.place path) = some (.file content) ∧
        Path.endsInSlash path = false := by
  rw [readFile, at_place_eq_ok_iff]
  refine and_congr_right fun _ => ?_
  cases d.find? (d.place path) with
  | none => exact ⟨nofun, nofun⟩
  | some entry =>
    cases entry with
    | directory => exact ⟨nofun, nofun⟩
    | file c =>
      rw [aim]
      cases Path.endsInSlash path <;> simp

theorem resolve_eq_ok_iff {l : Location} :
    d.resolve path = .ok l ↔ d.Open path ∧ d.place path = l := by
  have hplace : d.resolve path = (do let t ← d.target path; Except.ok (← t.place)) := by
    unfold resolve
    cases d.target path with
    | error e => rfl
    | ok t =>
      show t.place = (do Except.ok (← t.place))
      cases t.place <;> rfl
  rw [hplace, at_place_eq_ok_iff]
  exact and_congr_right fun _ => ⟨Except.ok.inj, congrArg _⟩

/-- **A path leads to a directory** exactly if all its places are directories. -/
theorem isDirectory_iff :
    d.isDirectory path ↔ Path.Sound path ∧ ∀ l ∈ d.trail path, d.IsDir l := by
  have hopen : d.isDirectory path ↔ d.Open path ∧ d.IsDir (d.place path) := by
    unfold isDirectory
    constructor
    · intro h
      cases hl : d.resolve path with
      | error e => simp [hl] at h
      | ok l =>
        obtain ⟨hopen, rfl⟩ := resolve_eq_ok_iff.1 hl
        exact ⟨hopen, by simpa [hl, IsDir] using h⟩
    · rintro ⟨hopen, hdir⟩
      rw [resolve_eq_ok_iff.2 ⟨hopen, rfl⟩]
      simpa [IsDir] using hdir
  rw [hopen]
  constructor
  · rintro ⟨⟨hsound, hway⟩, hdir⟩
    refine ⟨hsound, fun l hl => ?_⟩
    rcases mem_trail_iff.1 hl with hl | rfl
    · exact hway l hl
    · exact hdir
  · rintro ⟨hsound, htrail⟩
    exact ⟨⟨hsound, fun l hl => htrail l (mem_trail_iff.2 (Or.inl hl))⟩,
      htrail _ (mem_trail_iff.2 (Or.inr rfl))⟩

/-- **A directory is made** exactly if there is nothing at its place, and its
    last name can be new. -/
theorem makeDir_eq_ok_iff {d' : Disk} :
    d.makeDir path = .ok d' ↔
      d.Open path ∧ Path.IsNew path ∧ d.find? (d.place path) = none ∧
        d.put (d.place path) .directory = d' := by
  rw [makeDir, at_place_eq_ok_iff, ← isNew_aim]
  refine and_congr_right fun _ => ?_
  cases (d.aim path).isNew <;> cases d.find? (d.place path) <;> simp

/-- Where no file is on its way, a sound path is not made because a directory is
    missing or because it is there already. -/
theorem makeDir_eq_error (h : Path.Sound path)
    (hway : ∀ l ∈ d.way path, ∀ c, d.find? l ≠ some (.file c)) {e : FileError}
    (he : d.makeDir path = .error e) :
    e = .notFound ∧ ¬d.Open path ∨
      d.Open path ∧ (¬Path.IsNew path ∨ (d.find? (d.place path)).isSome) := by
  cases ht : d.target path with
  | error e' =>
    have hopen : ¬d.Open path := by
      rintro ⟨hsound, hdirs⟩
      rw [target_of_sound hsound hdirs] at ht
      cases ht
    unfold makeDir at he
    rw [ht] at he
    obtain rfl := Except.error.inj he
    exact Or.inl ⟨target_eq_error h hway ht, hopen⟩
  | ok t =>
    have hopen : d.Open path := ⟨h, (target_eq_ok_iff.1 ht).2.1⟩
    refine Or.inr ⟨hopen, ?_⟩
    by_contra hnew
    rw [not_or, not_not, Option.not_isSome_iff_eq_none] at hnew
    rw [makeDir_eq_ok_iff.2 ⟨hopen, hnew.1, hnew.2, rfl⟩] at he
    cases he

/-- **A file is written** exactly if there is no directory at its place, its last
    name can be new, and no slash follows it. -/
theorem writeFile_eq_ok_iff {content : ByteArray} {d' : Disk} :
    d.writeFile path content = .ok d' ↔
      d.Open path ∧ Path.IsNew path ∧ Path.endsInSlash path = false ∧
        ¬d.IsDir (d.place path) ∧ d.put (d.place path) (.file content) = d' := by
  have hplace : d.writeFile path content = .ok d' ↔
      (do let t ← d.target path
          let loc ← t.place
          if !t.isNew || t.slash then Except.error FileError.isDirectory
          else if d.find? loc = some Entry.directory then Except.error FileError.isDirectory
          else Except.ok (d.put loc (.file content))) = .ok d' := by
    unfold writeFile
    cases d.target path with
    | error e => exact Iff.rfl
    | ok t =>
      show (if !t.isNew || t.slash then _ else do let loc ← t.place; _) = _ ↔
        (do let loc ← t.place; if !t.isNew || t.slash then _ else _) = _
      cases !t.isNew || t.slash with
      | true => cases t.place <;> exact ⟨nofun, nofun⟩
      | false => exact Iff.rfl
  rw [hplace, at_place_eq_ok_iff, ← isNew_aim]
  refine and_congr_right fun _ => ?_
  have hslash : (d.aim path).slash = Path.endsInSlash path := rfl
  rw [hslash, IsDir]
  cases (d.aim path).isNew <;> cases Path.endsInSlash path <;>
    by_cases hdir : d.find? (d.place path) = some .directory <;> simp [hdir]

/-- The place of a path whose last name can be new is below one on its way. -/
theorem place_of_isNew (h : Path.IsNew path) :
    ∃ base ∈ d.way path, ∃ n, d.place path = base ++ [n] := by
  obtain ⟨n, hlast, hdot, hdots⟩ := h
  obtain ⟨ns, hns⟩ := List.getLast?_eq_some_iff.1 hlast
  have hsolid : Path.solidNames [n] = [n] := by simp [Path.solidNames, hdot]
  refine ⟨_, Location.foldl_mem_trail _ _, n, ?_⟩
  rw [place, Path.solid, Path.approach, hns, List.dropLast_concat, Path.solidNames_append,
    List.foldl_append, hsolid]
  exact if_neg hdots

end Disk

end Pagewright
