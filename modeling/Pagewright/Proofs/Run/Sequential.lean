/-
  Jobs one after the other.

  * `Simulates x y`: what the program `y` does to a disk, running one job after
    the other, is something that `x` can do;
  * `Settled x`: on disks that hold the same, `x` has one result and leaves disks
    that hold the same;
  * `executes_all_of_mapM`: jobs that can fail may be run one after the other, up to
    the first that does;
  * `simulates_compile`: a run that does one thing after the other is one of the
    executions of a run.
-/
import Pagewright.Proofs.Run.Executions
import Pagewright.Run.Compile

namespace Pagewright

open FileSystem

namespace Behaviour

variable {α β : Type}

/-- What a program does to a disk is something that a job can do. -/
def Simulates (x : Behaviour α) (y : StateM Disk α) : Prop := ∀ d, Executes x d (y d).1 (y d).2

/-- A job has one result on disks that hold the same. -/
def Settled (x : Behaviour α) : Prop :=
  ∀ d e a b d' e', d.Same e → Executes x d a d' → Executes x e b e' → a = b ∧ d'.Same e'

/-- A job that does the operations of a program, in its order. -/
structure Sequential (x : Behaviour α) (y : StateM Disk α) : Prop where
  simulates : Simulates x y
  settled : Settled x

/-! ## Programs -/

section
variable {x : Behaviour α} {y : StateM Disk α} {x' : Behaviour β} {y' : StateM Disk β}
  {f : α → Behaviour β} {g : α → StateM Disk β}

theorem simulates_pure (a : α) : Simulates (pure a) (pure a) := fun _ => ran_pure.2 ⟨rfl, rfl⟩

theorem Simulates.bind (hx : Simulates x y) (hf : ∀ a, Simulates (f a) (g a)) :
    Simulates (x >>= f) (y >>= g) :=
  fun d => ran_bind.2 ⟨(y d).1, (y d).2, hx d, hf (y d).1 (y d).2⟩

/-- To run two jobs one after the other is a way to run them side by side. -/
theorem Simulates.both (hx : Simulates x y) (hx' : Simulates x' y') :
    Simulates (Concurrent.both x x') (Concurrent.both y y') := by
  intro d
  obtain ⟨s, hs, hds⟩ := hx d
  obtain ⟨t, ht, hdt⟩ := hx' (y d).2
  exact ⟨s ++ t, ⟨s, t, Interleaved.append s t, hs, ht⟩, runs_append.2 ⟨_, hds, hdt⟩⟩

/-- If a program succeeds, so does an execution of what simulates it. -/
theorem Simulates.exists_ok {ε : Type} {x : Behaviour (Except ε α)} {y : StateM Disk (Except ε α)}
    (h : Simulates x y) {d : Disk} (hok : (y d).1.toBool = true) :
    ∃ a, Executes x d (.ok a) (y d).2 := by
  have hd := h d
  cases hy : (y d).1 with
  | error e =>
    rw [hy] at hok
    cases hok
  | ok a => exact ⟨a, hy ▸ hd⟩

theorem settled_pure (a : α) : Settled (pure a) := by
  intro d e b c d' e' hde hd he
  obtain ⟨rfl, rfl⟩ := ran_pure.1 hd
  obtain ⟨rfl, rfl⟩ := ran_pure.1 he
  exact ⟨rfl, hde⟩

theorem Settled.bind (hx : Settled x) (hf : ∀ a, Settled (f a)) : Settled (x >>= f) := by
  intro d e b c d' e' hde hd he
  obtain ⟨a, m, hxd, hfd⟩ := ran_bind.1 hd
  obtain ⟨a', n, hxe, hfe⟩ := ran_bind.1 he
  obtain ⟨rfl, hmn⟩ := hx d e a a' m n hde hxd hxe
  exact hf a m n b c d' e' hmn hfd hfe

theorem sequential_pure (a : α) : Sequential (pure a) (pure a) :=
  ⟨simulates_pure a, settled_pure a⟩

theorem Sequential.bind (hx : Sequential x y) (hf : ∀ a, Sequential (f a) (g a)) :
    Sequential (x >>= f) (y >>= g) :=
  ⟨hx.simulates.bind fun a => (hf a).simulates, hx.settled.bind fun a => (hf a).settled⟩

end

/-! ## One of the ways to run jobs side by side -/

section
variable {ε : Type} {x : Behaviour (Except ε α)} {xs : List (Behaviour (Except ε α))}
  {d m d' : Disk}

/-- If the first job fails, the others may all be left out. -/
theorem executes_all_error {e : ε} (h : Executes x d (.error e) d') :
    Executes (Concurrent.all (x :: xs)) d (.error e) d' := by
  obtain ⟨t, ht, hd⟩ := h
  have hrest : Abreast xs [] (xs.map fun _ => none) := by
    clear ht
    induction xs with
    | nil => exact .nil
    | cons y ys ih => exact .leftOut y ih
  have hu : Interleaved t [] t := (Interleaved.append [] t).symm
  exact ⟨t, ⟨_, .begun ht hrest hu, .failure List.mem_cons_self⟩, hd⟩

/-- If the first job succeeds, the others may all be run after it. -/
theorem executes_all_ok {a : α} {r : Except ε (List α)} (h : Executes x d (.ok a) m)
    (hxs : Executes (Concurrent.all xs) m r d') :
    Executes (Concurrent.all (x :: xs)) d (r.map (a :: ·)) d' := by
  obtain ⟨s, hs, hdm⟩ := h
  obtain ⟨t, ⟨rs, hall, htold⟩, hmd⟩ := hxs
  refine ⟨s ++ t, ⟨_, .begun hs hall (Interleaved.append s t), ?_⟩, runs_append.2 ⟨m, hdm, hmd⟩⟩
  cases htold with
  | results as => exact .results (a :: as)
  | failure h => exact .failure (List.mem_cons_of_mem _ h)

/-- Jobs may be run one after the other, up to the first that fails. -/
theorem executes_all_of_mapM {r : Except ε (List α)}
    (h : Executes (xs.mapM ExceptT.mk).run d r d') : Executes (Concurrent.all xs) d r d' := by
  induction xs generalizing d d' r with
  | nil =>
    obtain ⟨rfl, rfl⟩ := ran_pure.1 h
    exact ⟨[], ⟨[], .nil, .results []⟩, rfl⟩
  | cons x xs ih =>
    rw [List.mapM_cons] at h
    obtain ⟨s, m, hx, h⟩ := ran_bind.1 h
    cases s with
    | error e =>
      obtain ⟨rfl, rfl⟩ := ran_pure.1 h
      exact executes_all_error hx
    | ok a =>
      obtain ⟨s, n, hxs, h⟩ := ran_bind.1 h
      have hall := executes_all_ok hx (ih hxs)
      cases s <;>
        obtain ⟨rfl, rfl⟩ := ran_pure.1 h <;>
        exact hall

end

/-! ## Operations -/

theorem sequential_readFile (path : String) : Sequential (readFile path) (readFile path) where
  simulates d := ran_readFile.2 ⟨d, rfl, rfl, rfl⟩
  settled d e a b d' e' hde hd he := by
    obtain ⟨_, rfl, rfl, rfl⟩ := ran_readFile.1 hd
    obtain ⟨_, rfl, rfl, rfl⟩ := ran_readFile.1 he
    exact ⟨hde.readFile path, hde⟩

theorem sequential_isDirectory (path : String) :
    Sequential (isDirectory path) (isDirectory path) where
  simulates d := ran_isDirectory.2 ⟨d, rfl, rfl, rfl⟩
  settled d e a b d' e' hde hd he := by
    obtain ⟨_, rfl, rfl, rfl⟩ := ran_isDirectory.1 hd
    obtain ⟨_, rfl, rfl, rfl⟩ := ran_isDirectory.1 he
    exact ⟨hde.isDirectory path, hde⟩

theorem Outcome.same {a b : Except FileError Unit} {made made' : Except FileError Disk}
    {d e d' e' : Disk} (hde : d.Same e) (halike : Disk.Same.Alike made made')
    (hd : Outcome a made d d') (he : Outcome b made' e e') : a = b ∧ d'.Same e' := by
  rcases hd with ⟨rfl, rfl⟩ | ⟨_, rfl, rfl, rfl⟩ <;>
    rcases he with ⟨rfl, rfl⟩ | ⟨_, rfl, rfl, rfl⟩
  · exact ⟨rfl, halike⟩
  · exact halike.elim
  · exact halike.elim
  · exact ⟨congrArg _ halike, hde⟩

theorem sequential_makeDir (path : String) : Sequential (makeDir path) (makeDir path) where
  simulates d := ran_makeDir.2 ⟨d, _, rfl, outcome_iff.1 rfl, rfl⟩
  settled d e a b d' e' hde hd he := by
    obtain ⟨_, _, rfl, houtd, rfl⟩ := ran_makeDir.1 hd
    obtain ⟨_, _, rfl, houte, rfl⟩ := ran_makeDir.1 he
    exact Outcome.same hde (hde.makeDir path) houtd houte

theorem sequential_writeFile (path : String) (content : ByteArray) :
    Sequential (writeFile path content) (writeFile path content) where
  simulates d := ran_writeFile.2 ⟨d, _, rfl, outcome_iff.1 rfl, rfl⟩
  settled d e a b d' e' hde hd he := by
    obtain ⟨_, _, rfl, houtd, rfl⟩ := ran_writeFile.1 hd
    obtain ⟨_, _, rfl, houte, rfl⟩ := ran_writeFile.1 he
    exact Outcome.same hde (hde.writeFile path content) houtd houte

theorem sequential_readText (path : String) : Sequential (readText path) (readText path) := by
  refine (sequential_readFile path).bind fun r => ?_
  cases r with
  | error e => exact sequential_pure _
  | ok bytes =>
    dsimp only
    cases String.fromUTF8? bytes <;> exact sequential_pure _

theorem sequential_settleDir (path : String) : Sequential (settleDir path) (settleDir path) := by
  refine (sequential_makeDir path).bind fun r => ?_
  cases r with
  | ok u => exact sequential_pure _
  | error e =>
    refine (sequential_isDirectory path).bind fun b => ?_
    cases b <;> exact sequential_pure _

theorem sequential_makeDirsFrom (paths : List String) :
    Sequential (makeDirsFrom paths) (makeDirsFrom paths) := by
  induction paths with
  | nil => exact sequential_pure _
  | cons a paths ih =>
    unfold makeDirsFrom
    by_cases hempty : a = ""
    · rw [if_pos hempty, if_pos hempty]
      exact sequential_pure _
    · rw [if_neg hempty, if_neg hempty]
      refine (sequential_settleDir a).bind fun r => ?_
      split
      · refine ih.bind fun r => ?_
        cases r with
        | ok u => exact sequential_settleDir a
        | error e => exact sequential_pure _
      · exact sequential_pure _

theorem sequential_makeDirs (path : String) : Sequential (makeDirs path) (makeDirs path) :=
  sequential_makeDirsFrom _

theorem sequential_makeParent (path : String) :
    Sequential (makeParent path) (makeParent path) := by
  unfold makeParent
  split
  · exact sequential_pure _
  · exact sequential_pure _
  · exact sequential_makeDirs _

/-! ## Steps of a run -/

section
variable {x : ExceptT RunError Behaviour α} {y : ExceptT RunError (StateM Disk) α}
  {f : α → ExceptT RunError Behaviour β} {g : α → ExceptT RunError (StateM Disk) β}

theorem simulates_run_bind (hx : Simulates x.run y.run) (hf : ∀ a, Simulates (f a).run (g a).run) :
    Simulates (x >>= f).run (y >>= g).run := by
  rw [ExceptT.run_bind, ExceptT.run_bind]
  refine hx.bind fun r => ?_
  cases r with
  | ok a => exact hf a
  | error e => exact simulates_pure _

theorem simulates_mapM {bs : List β} {F : β → ExceptT RunError Behaviour α}
    {G : β → ExceptT RunError (StateM Disk) α} (h : ∀ b, Simulates (F b).run (G b).run) :
    Simulates (bs.mapM F).run (bs.mapM G).run := by
  induction bs with
  | nil => exact simulates_pure _
  | cons b bs ih =>
    rw [List.mapM_cons, List.mapM_cons]
    exact simulates_run_bind (h b) fun _ => simulates_run_bind ih fun _ => simulates_pure _

/-- A program that runs jobs one after the other does what they can do side by side. -/
theorem simulates_all {bs : List β} {F : β → Behaviour (Except RunError α)}
    {G : β → StateM Disk (Except RunError α)} (h : ∀ b, Simulates (F b) (G b)) :
    Simulates (Concurrent.all (bs.map F)) (Concurrent.all (bs.map G)) := by
  intro d
  have hmap : Simulates ((bs.map F).mapM ExceptT.mk).run ((bs.map G).mapM ExceptT.mk).run := by
    rw [List.mapM_map, List.mapM_map]
    exact simulates_mapM h
  exact executes_all_of_mapM (hmap d)

theorem sequential_run_bind (hx : Sequential x.run y.run)
    (hf : ∀ a, Sequential (f a).run (g a).run) : Sequential (x >>= f).run (y >>= g).run := by
  rw [ExceptT.run_bind, ExceptT.run_bind]
  refine hx.bind fun r => ?_
  cases r with
  | ok a => exact hf a
  | error e => exact sequential_pure _

theorem sequential_attempt {fail : FileError → RunError} {x : Behaviour (Except FileError α)}
    {y : StateM Disk (Except FileError α)} (h : Sequential x y) :
    Sequential (attempt fail x).run (attempt fail y).run := by
  refine h.bind fun r => ?_
  cases r <;> exact sequential_pure _

theorem sequential_mapM {bs : List β} {F : β → ExceptT RunError Behaviour α}
    {G : β → ExceptT RunError (StateM Disk) α} (h : ∀ b, Sequential (F b).run (G b).run) :
    Sequential (bs.mapM F).run (bs.mapM G).run := by
  induction bs with
  | nil => exact sequential_pure _
  | cons b bs ih =>
    rw [List.mapM_cons, List.mapM_cons]
    exact sequential_run_bind (h b) fun _ => sequential_run_bind ih fun _ => sequential_pure _

end

theorem sequential_loadPages (path : String) :
    Sequential (loadPages path).run (loadPages path).run :=
  sequential_run_bind (sequential_attempt (sequential_readText path)) fun _ => sequential_pure _

theorem sequential_copyTheme (theme : Theme) :
    Sequential (copyTheme theme).run (copyTheme theme).run := by
  refine sequential_run_bind (sequential_attempt (sequential_readFile _)) fun content => ?_
  refine sequential_run_bind (sequential_attempt (sequential_makeParent _)) fun _ => ?_
  exact sequential_run_bind (sequential_attempt (sequential_writeFile _ _)) fun _ =>
    sequential_pure _

theorem sequential_writeSource (path source : String) :
    Sequential (writeSource path source).run (writeSource path source).run :=
  sequential_run_bind (sequential_attempt (sequential_writeFile _ _)) fun _ => sequential_pure _

theorem sequential_writeLibraryIfAsked (output : String) (options : Options) (ps : List Page) :
    Sequential (writeLibraryIfAsked output options ps).run
      (writeLibraryIfAsked output options ps).run := by
  unfold writeLibraryIfAsked
  cases options.library with
  | none => exact sequential_pure _
  | some library =>
    exact sequential_run_bind (sequential_attempt (sequential_makeDirs output)) fun _ =>
      sequential_mapM fun _ => sequential_writeSource _ _

theorem simulates_compilePage (output themeImport : String) (p : Page) :
    Simulates (compilePage output themeImport p).run (compilePage output themeImport p).run := by
  refine simulates_run_bind (sequential_attempt (sequential_makeDirs _)).simulates fun _ => ?_
  exact simulates_run_bind (simulates_all fun f => (sequential_writeSource _ _).simulates) fun _ =>
    simulates_pure _

theorem simulates_compilePages (output : String) (options : Options) (ps : List Page) :
    Simulates (compilePages output options ps).run (compilePages output options ps).run := by
  have htheme : Simulates (copyThemeIfAsked options).run (copyThemeIfAsked options).run := by
    unfold copyThemeIfAsked
    cases options.copyTheme with
    | false => exact simulates_pure _
    | true =>
      exact simulates_run_bind (sequential_copyTheme _).simulates fun _ => simulates_pure _
  refine Simulates.bind (htheme.both (simulates_all fun p =>
    simulates_compilePage output options.themeImport p)) fun results => ?_
  obtain ⟨theme, pages⟩ := results
  dsimp only
  cases theme with
  | error e => exact simulates_pure _
  | ok themeCopied =>
    cases pages with
    | error e => exact simulates_pure _
    | ok reports =>
      refine (sequential_writeLibraryIfAsked output options ps).simulates.bind fun r => ?_
      cases r <;> exact simulates_pure _

/-- **A run that does one thing after the other is an execution.** -/
theorem simulates_compile (input output : String) (options : Options) :
    Simulates (compile input output options).run (compile input output options).run :=
  simulates_run_bind (sequential_loadPages input).simulates fun _ =>
    simulates_compilePages output options _

end Behaviour

end Pagewright
