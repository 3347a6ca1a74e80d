/-
  Operations as steps of a run, and files written while others are at work.

  * `ran_of_all_ok`: jobs side by side that have all succeeded each have, among the
    others, and `exists_ran_error`: else one of them has failed among them; so they
    all succeed if each does (`succeeds_all`);
  * `readFile_of_ran_writeFile`: a file that was written is read again, and
    `succeeds_writeFile`: it can be written on the way to a disk on which it is
    one.
-/
import Pagewright.Run.Compile
import Pagewright.Proofs.Run.Directories

namespace Pagewright

open FileSystem

namespace Behaviour

variable {R : Disk → Disk → Prop} {α β : Type} {d d' M : Disk} {π ρ : Plan}

/-! ## Attempts -/

section
variable {fail : FileError → RunError} {x : Behaviour (Except FileError α)}

theorem keeps_attempt (hx : Keeps R x) : Keeps R (attempt fail x).run := by
  refine Keeps.bind hx fun r => ?_
  cases r <;> exact keeps_pure _

variable [IsPreorder Disk R]

theorem ran_attempt_ok {a : α} :
    Ran R (attempt fail x).run d (.ok a) d' ↔ Ran R x d (.ok a) d' := by
  refine ran_bind.trans ⟨?_, fun h => ⟨.ok a, d', h, ran_pure.2 ⟨rfl, refl d'⟩⟩⟩
  rintro ⟨r, m, hx, h⟩
  cases r with
  | ok b =>
    obtain ⟨ha, hm⟩ := ran_pure.1 h
    obtain rfl := Except.ok.inj ha
    exact hx.tail hm
  | error e => cases (ran_pure.1 h).1

theorem succeeds_attempt (hx : Succeeds R x d) : Succeeds R (attempt fail x).run d := by
  intro r d' h
  obtain ⟨s, m, hxs, h⟩ := ran_bind.1 h
  obtain ⟨a, rfl⟩ := hx s m hxs
  exact ⟨a, (ran_pure.1 h).1⟩

end

/-! ## Jobs side by side -/

section
variable [IsPreorder Disk R] {xs : List (Behaviour (Except RunError α))}

/-- Jobs side by side have all succeeded. -/
theorem ran_of_all_ok (hxs : ∀ x ∈ xs, Keeps R x) {as : List α}
    (h : Ran R (Concurrent.all xs) d (.ok as) d') :
    List.Forall₂ (fun x a => Ran R x d (.ok a) d') xs as := by
  obtain ⟨t, ⟨rs, habreast, ⟨⟩⟩, ht⟩ := h
  exact (List.forall₂_map_right_iff.1 (ran_of_abreast hxs habreast ht)).imp fun x a hx => hx _ rfl

/-- If jobs side by side have not all succeeded, one of them has failed. -/
theorem exists_ran_error (hxs : ∀ x ∈ xs, Keeps R x) {e : RunError}
    (h : Ran R (Concurrent.all xs) d (.error e) d') : ∃ x ∈ xs, Ran R x d (.error e) d' := by
  obtain ⟨t, ⟨rs, habreast, ⟨⟩ | ⟨hmem⟩⟩, ht⟩ := h
  obtain ⟨x, hx, hran⟩ := exists_mem_of_forall₂ (ran_of_abreast hxs habreast ht) hmem
  exact ⟨x, hx, hran _ rfl⟩

/-- Jobs side by side all succeed if each does among the others. -/
theorem succeeds_all (hxs : ∀ x ∈ xs, Keeps R x) (hok : ∀ x ∈ xs, Succeeds R x d) :
    Succeeds R (Concurrent.all xs) d := by
  intro r d' h
  cases r with
  | ok as => exact ⟨as, rfl⟩
  | error e =>
    obtain ⟨x, hx, hran⟩ := exists_ran_error hxs h
    obtain ⟨a, ha⟩ := hok x hx _ d' hran
    cases ha

end

/-! ## Files -/

section
variable {path : String} {content : ByteArray} {source : String}

/-- A file that was written is read again, if nobody else writes it. -/
theorem readFile_of_ran_writeFile (honly : ρ.Only d path content)
    (h : Ran (Changes ρ) (FileSystem.writeFile path content) d (.ok ()) d') :
    d'.readFile path = .ok content := by
  obtain ⟨m, n, hm, hout | ⟨e, he, -⟩, hn⟩ := ran_writeFile.1 h
  · have hcurrent : n.current = m.current := by
      obtain ⟨-, -, -, -, rfl⟩ := Disk.writeFile_eq_ok_iff.1 hout.2
      rfl
    exact hn.readFile (Disk.readFile_of_writeFile hout.2)
      (honly.congr (hcurrent.trans hm.current))
  · cases he

/-- On the way to a disk on which it is one, a file can be written once it can be
    found. -/
theorem succeeds_writeFile (hway : Plan.OnTheWay π ρ M d) {content' : ByteArray}
    (hpath : (path, content') ∈ π.files) (hopen : d.Open path) :
    Succeeds (Changes ρ) (FileSystem.writeFile path content) d := by
  intro r d' h
  obtain ⟨m, n, hm, hout | ⟨e, rfl, hfail, -⟩, -⟩ := ran_writeFile.1 h
  · exact ⟨(), hout.1⟩
  have hfile := hway.done.files path content' hpath
  obtain ⟨-, hfind, hslash⟩ := Disk.readFile_eq_ok_iff.1 hfile
  have hMm : Toward M m := hway.toward m hm
  have hdir : ¬m.IsDir (m.place path) := by
    rw [Disk.place_congr hMm.current]
    exact hMm.no_dir _ _ hfind
  rw [Disk.writeFile_eq_ok_iff.2 ⟨hm.isOpen hopen, hway.tree.isNew hfile, hslash, hdir, rfl⟩]
    at hfail
  cases hfail

theorem keeps_writeSource (h : (path, source.toUTF8) ∈ ρ.files) :
    Keeps (Changes ρ) (writeSource path source : ExceptT RunError Behaviour String).run :=
  keeps_run_bind (keeps_attempt (keeps_writeFile fun _ _ => Changes.of_writeFile h))
    fun _ => keeps_pure _

theorem ran_writeSource_ok [IsPreorder Disk R] {written : String} :
    Ran R (writeSource path source : ExceptT RunError Behaviour String).run d (.ok written) d' ↔
      written = path ∧ Ran R (FileSystem.writeFile path source.toUTF8) d (.ok ()) d' := by
  refine ran_run_bind_ok.trans ⟨?_, ?_⟩
  · rintro ⟨u, m, hwrite, h⟩
    obtain ⟨hwritten, hm⟩ := ran_pure.1 h
    exact ⟨Except.ok.inj hwritten, (ran_attempt_ok.1 hwrite).tail hm⟩
  · rintro ⟨rfl, hwrite⟩
    exact ⟨(), d', ran_attempt_ok.2 hwrite, ran_pure.2 ⟨rfl, refl d'⟩⟩

theorem succeeds_writeSource (h : Succeeds R (FileSystem.writeFile path source.toUTF8) d)
    [IsPreorder Disk R] :
    Succeeds R (writeSource path source : ExceptT RunError Behaviour String).run d :=
  succeeds_run_bind (succeeds_attempt h) fun _ _ _ => succeeds_pure path

end

end Behaviour

end Pagewright
