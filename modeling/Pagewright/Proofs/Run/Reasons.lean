/-
  The reasons for which the steps of a run fail.

  * `Fails P x`: a job that fails does so for a reason that is as `P` says.  It goes
    through the steps of a job, so that each operation is looked at once;
  * `fails_loadPages`, `fails_copyThemeIfAsked`, `fails_compilePage` and
    `fails_writeLibraryIfAsked`: so the reason tells which part of a run has failed.
-/
import Pagewright.Proofs.Run.SideBySide

namespace Pagewright

open FileSystem

namespace RunError

/-- Whether a run has failed because its pages could not be had. -/
def isInput : RunError → Bool
  | readInput .. | parseInput .. | invalidInput .. => true
  | _ => false

/-- Whether a run has failed because a directory could not be made or a file could
    not be written. -/
def isOutput : RunError → Bool
  | createDir .. | writeFile .. => true
  | _ => false

end RunError

namespace Behaviour

variable {α β : Type} {P : RunError → Prop}

/-- If a job fails, it does so for a reason that is as `P` says. -/
def Fails (P : RunError → Prop) (x : Behaviour (Except RunError α)) : Prop :=
  ∀ t e, x t (.error e) → P e

/-! ## Steps -/

theorem fails_pure (a : α) : Fails P (pure (.ok a) : Behaviour (Except RunError α)) := by
  rintro _ _ ⟨-, h⟩
  cases h

/-- Two steps fail if the first does, or the second after the first. -/
theorem run_bind_error {x : ExceptT RunError Behaviour α} {f : α → ExceptT RunError Behaviour β}
    {t : List Event} {e : RunError} (h : (x >>= f).run t (.error e)) :
    x.run t (.error e) ∨ ∃ s a u, t = s ++ u ∧ x.run s (.ok a) ∧ (f a).run u (.error e) := by
  obtain ⟨s, r, u, rfl, hx, hf⟩ := h
  cases r with
  | ok a => exact Or.inr ⟨s, a, u, rfl, hx, hf⟩
  | error e' =>
    obtain ⟨rfl, he⟩ := hf
    obtain rfl := Except.error.inj he
    exact Or.inl (by rwa [List.append_nil])

theorem fails_run_bind {x : ExceptT RunError Behaviour α} {f : α → ExceptT RunError Behaviour β}
    (hx : Fails P x.run) (hf : ∀ a, Fails P (f a).run) : Fails P (x >>= f).run := by
  intro t e h
  rcases run_bind_error h with h | ⟨s, a, u, -, -, h⟩
  · exact hx t e h
  · exact hf a u e h

theorem fails_attempt {fail : FileError → RunError} {x : Behaviour (Except FileError α)}
    (h : ∀ e, P (fail e)) : Fails P (attempt fail x).run := by
  rintro _ e ⟨s, r, u, -, -, hr⟩
  cases r with
  | ok a => cases hr.2
  | error e' =>
    obtain rfl := Except.error.inj hr.2
    exact h e'

theorem fails_mapM {f : β → ExceptT RunError Behaviour α} {bs : List β}
    (h : ∀ b ∈ bs, Fails P (f b).run) : Fails P (bs.mapM f).run := by
  induction bs with
  | nil => exact fails_pure []
  | cons b bs ih =>
    obtain ⟨hb, hbs⟩ := List.forall_mem_cons.1 h
    rw [List.mapM_cons]
    exact fails_run_bind hb fun _ => fails_run_bind (ih hbs) fun _ => fails_pure _

/-- Jobs side by side fail for the reason of one of them. -/
theorem fails_all {xs : List (Behaviour (Except RunError α))} (h : ∀ x ∈ xs, Fails P x) :
    Fails P (Concurrent.all xs) := by
  rintro t e ⟨rs, habreast, ⟨⟩ | ⟨hmem⟩⟩
  obtain ⟨x, hx, hbegun⟩ := exists_mem_of_forall₂ habreast.forall₂ hmem
  obtain ⟨s, hs⟩ := hbegun _ rfl
  exact h x hx s e hs

/-! ## Parts of a run -/

section
variable {input output : String} {options : Options} {ps : List Page}

theorem fails_loadPages (input : String) :
    Fails (fun e => e.isInput) (loadPages input : ExceptT RunError Behaviour (List Page)).run := by
  refine fails_run_bind (fails_attempt fun _ => by rfl) fun source => ?_
  rintro _ e ⟨-, h⟩
  unfold parsePages at h
  split at h
  · rw [Except.error.inj h]
    rfl
  · split at h
    · cases h
    · rw [Except.error.inj h]
      rfl

theorem fails_writeSource (path source : String) :
    Fails (fun e => e.isOutput) (writeSource path source : ExceptT RunError Behaviour String).run :=
  fails_run_bind (fails_attempt fun _ => by rfl) fun _ => fails_pure path

theorem fails_compilePage (output themeImport : String) (p : Page) :
    Fails (fun e => e.isOutput) (compilePage output themeImport p).run := by
  rw [compilePage_eq]
  refine fails_run_bind (fails_attempt fun _ => by rfl) fun _ =>
    fails_run_bind (fails_all fun x hx => ?_) fun _ => fails_pure _
  obtain ⟨f, -, rfl⟩ := List.mem_map.1 hx
  exact fails_writeSource _ _

theorem fails_pageJobs :
    Fails (fun e => e.isOutput) (Concurrent.all (pageJobs output options ps)) := by
  refine fails_all fun x hx => ?_
  obtain ⟨p, -, rfl⟩ := List.mem_map.1 hx
  exact fails_compilePage output options.themeImport p

theorem fails_copyTheme (theme : Theme) :
    Fails (fun e => ∃ reason, e = .themeCopy theme.source theme.target reason)
      (copyTheme theme : ExceptT RunError Behaviour String).run :=
  fails_run_bind (fails_attempt fun e => ⟨e, rfl⟩) fun _ =>
    fails_run_bind (fails_attempt fun e => ⟨e, rfl⟩) fun _ =>
      fails_run_bind (fails_attempt fun e => ⟨e, rfl⟩) fun _ => fails_pure theme.target

theorem fails_copyThemeIfAsked (options : Options) :
    Fails (fun e => ∃ reason, e = .themeCopy options.theme.source options.theme.target reason)
      (copyThemeIfAsked options : ExceptT RunError Behaviour (Option String)).run := by
  unfold copyThemeIfAsked
  cases options.copyTheme with
  | false => exact fails_pure none
  | true =>
    exact fails_run_bind (fails_copyTheme options.theme) fun target => fails_pure (some target)

theorem fails_writeLibraryIfAsked (output : String) (options : Options) (ps : List Page) :
    Fails (fun e => e.isOutput)
      (writeLibraryIfAsked output options ps : ExceptT RunError Behaviour (List String)).run := by
  unfold writeLibraryIfAsked
  cases options.library with
  | none => exact fails_pure []
  | some library =>
    exact fails_run_bind (fails_attempt fun _ => by rfl) fun _ =>
      fails_mapM fun f _ => fails_writeSource _ _

end

end Behaviour

end Pagewright
