/-
  Executions of jobs that run side by side.

  * `Behaviour` is the monad of everything a job can do: the operations it may
    perform, with their answers, and the result it then has.  Jobs that run side
    by side may do anything that is an interleaving of what each of them may do;
    of jobs that can fail, some may not begin if another fails (`Abreast`, `Told`);
  * `Ran R x d a d'`: the job `x` can take the disk from `d` to `d'` and end with
    `a` if others change it between the operations of `x`, but only as `R` says;
  * `Executes` is the same with nobody else around;
  * `ran_of_both_left`, `ran_of_abreast`: a job that runs beside others runs while
    they change the disk, so that it can be looked at alone.
-/
import Mathlib.Data.List.Forall2
import Mathlib.Order.Defs.Unbundled
import Mathlib.Tactic.Common
import Pagewright.Run.Concurrent
import Pagewright.Proofs.Files.Trees

namespace Pagewright

/-! ## Events -/

/-- An operation on files with its answer. -/
inductive Event where
  | readFile (path : String) (answer : Except FileError ByteArray)
  | makeDir (path : String) (answer : Except FileError Unit)
  | isDirectory (path : String) (answer : Bool)
  | writeFile (path : String) (content : ByteArray) (answer : Except FileError Unit)

/-- An operation is answered this way on a disk, and leaves that one. -/
def Answers {α : Type} (x : StateM Disk α) (a : α) (d d' : Disk) : Prop := x d = (a, d')

/-- An event takes a disk to another. -/
def Event.Occurs : Event → Disk → Disk → Prop
  | readFile path a => Answers (FileSystem.readFile path) a
  | makeDir path a => Answers (FileSystem.makeDir path) a
  | isDirectory path a => Answers (FileSystem.isDirectory path) a
  | writeFile path content a => Answers (FileSystem.writeFile path content) a

/-- A list is made of two others by taking from the front of either in turn. -/
inductive Interleaved {α : Type} : List α → List α → List α → Prop where
  | nil : Interleaved [] [] []
  | left {s t u : List α} (a : α) : Interleaved s t u → Interleaved (a :: s) t (a :: u)
  | right {s t u : List α} (a : α) : Interleaved s t u → Interleaved s (a :: t) (a :: u)

theorem Interleaved.symm {α : Type} {s t u : List α} (h : Interleaved s t u) :
    Interleaved t s u := by
  induction h with
  | nil => exact nil
  | left a _ ih => exact right a ih
  | right a _ ih => exact left a ih

theorem Interleaved.mem {α : Type} {s t u : List α} (h : Interleaved s t u) {a : α} :
    a ∈ u ↔ a ∈ s ∨ a ∈ t := by
  induction h with
  | nil => simp
  | left b _ ih => rw [List.mem_cons, List.mem_cons, ih, or_assoc]
  | right b _ ih => rw [List.mem_cons, List.mem_cons, ih, or_left_comm]

theorem Interleaved.eq_of_nil {α : Type} {t u : List α} (h : Interleaved [] t u) : u = t := by
  induction t generalizing u with
  | nil =>
    cases h
    rfl
  | cons a t ih =>
    cases h with
    | right _ h => rw [ih h]

theorem Interleaved.append {α : Type} (s t : List α) : Interleaved s t (s ++ t) := by
  induction s with
  | nil =>
    induction t with
    | nil => exact nil
    | cons a t ih => exact right a ih
  | cons a s ih => exact left a ih

/-- What is in the second of two related lists is related to something in the first. -/
theorem exists_mem_of_forall₂ {α β : Type} {P : α → β → Prop} {xs : List α} {ys : List β}
    (h : List.Forall₂ P xs ys) {y : β} (hy : y ∈ ys) : ∃ x ∈ xs, P x y := by
  induction h with
  | nil => cases hy
  | @cons x _ xs _ hx _ ih =>
    rcases List.mem_cons.1 hy with rfl | hy
    · exact ⟨x, List.mem_cons_self, hx⟩
    · obtain ⟨x', hx', h⟩ := ih hy
      exact ⟨x', List.mem_cons_of_mem x hx', h⟩

/-! ## Behaviours -/

/-- What a job can do: events, and the result it has after them. -/
def Behaviour (α : Type) : Type := List Event → α → Prop

namespace Behaviour

instance : Monad Behaviour where
  pure a := fun t b => t = [] ∧ b = a
  bind x f := fun t b => ∃ s a u, t = s ++ u ∧ x s a ∧ f a u b

instance : FileSystem Behaviour where
  readFile path := fun t a => t = [.readFile path a]
  makeDir path := fun t a => t = [.makeDir path a]
  isDirectory path := fun t a => t = [.isDirectory path a]
  writeFile path content := fun t a => t = [.writeFile path content a]

/-- Jobs side by side, some of which are left out: what the others do, and the result of
    each that has begun. -/
inductive Abreast {α : Type} : List (Behaviour α) → List Event → List (Option α) → Prop where
  | nil : Abreast [] [] []
  | begun {x : Behaviour α} {xs : List (Behaviour α)} {s t u : List Event} {a : α}
    {as : List (Option α)} (hx : x s a) (hxs : Abreast xs t as) (hu : Interleaved s t u) :
    Abreast (x :: xs) u (some a :: as)
  | leftOut (x : Behaviour α) {xs : List (Behaviour α)} {t : List Event} {as : List (Option α)}
    (hxs : Abreast xs t as) : Abreast (x :: xs) t (none :: as)

/-- What is told of jobs that can fail: all their results, or the failure of any of those
    that have begun.  So none is left out unless one has failed. -/
inductive Told {ε α : Type} : List (Option (Except ε α)) → Except ε (List α) → Prop where
  | results (as : List α) : Told (as.map fun a => some (.ok a)) (.ok as)
  | failure {rs : List (Option (Except ε α))} {e : ε} (h : some (.error e) ∈ rs) :
    Told rs (.error e)

instance : Concurrent Behaviour where
  both x y := fun t a => ∃ s u, Interleaved s u t ∧ x s a.1 ∧ y u a.2
  all xs := fun t r => ∃ rs, Abreast xs t rs ∧ Told rs r

instance : LawfulMonad Behaviour := LawfulMonad.mk' Behaviour
  (fun x => by
    funext t b
    refine propext ⟨?_, fun h => ⟨t, b, [], by simp, h, rfl, rfl⟩⟩
    rintro ⟨s, a, u, rfl, hx, rfl, rfl⟩
    rwa [List.append_nil])
  (fun a f => by
    funext t b
    refine propext ⟨?_, fun h => ⟨[], a, t, rfl, ⟨rfl, rfl⟩, h⟩⟩
    rintro ⟨s, a, u, rfl, ⟨rfl, rfl⟩, h⟩
    exact h)
  (fun x f g => by
    funext t c
    refine propext ⟨?_, ?_⟩
    · rintro ⟨_, b, v, rfl, ⟨s, a, u, rfl, hx, hf⟩, hg⟩
      exact ⟨s, a, u ++ v, List.append_assoc s u v, hx, u, b, v, rfl, hf, hg⟩
    · rintro ⟨s, a, _, rfl, hx, u, b, v, rfl, hf, hg⟩
      exact ⟨s ++ u, b, v, (List.append_assoc s u v).symm, ⟨s, a, u, rfl, hx, hf⟩, hg⟩)

end Behaviour

/-! ## Runs -/

/-- Events take a disk to another while others change it, as `R` says, before
    each of them and at the end. -/
def Runs (R : Disk → Disk → Prop) : Disk → List Event → Disk → Prop
  | d, [], d' => R d d'
  | d, e :: t, d' => ∃ m n, R d m ∧ e.Occurs m n ∧ Runs R n t d'

section
variable {R R' : Disk → Disk → Prop}

theorem Runs.mono (hR : ∀ d d', R d d' → R' d d') {t : List Event} {d d' : Disk}
    (h : Runs R d t d') : Runs R' d t d' := by
  induction t generalizing d with
  | nil => exact hR d d' h
  | cons e t ih =>
    obtain ⟨m, n, hm, he, ht⟩ := h
    exact ⟨m, n, hR d m hm, he, ih ht⟩

theorem Runs.head [IsPreorder Disk R] {t : List Event} {d m d' : Disk} (hd : R d m)
    (h : Runs R m t d') : Runs R d t d' := by
  cases t with
  | nil => exact IsTrans.trans d m d' hd h
  | cons e t =>
    obtain ⟨n, k, hn, he, ht⟩ := h
    exact ⟨n, k, Trans.trans hd hn, he, ht⟩

theorem runs_append [IsPreorder Disk R] {s t : List Event} {d d' : Disk} :
    Runs R d (s ++ t) d' ↔ ∃ m, Runs R d s m ∧ Runs R m t d' := by
  induction s generalizing d with
  | nil => exact ⟨fun h => ⟨d, refl d, h⟩, fun ⟨m, hm, h⟩ => h.head hm⟩
  | cons e s ih =>
    constructor
    · rintro ⟨m, n, hm, he, h⟩
      obtain ⟨k, hs, ht⟩ := ih.1 h
      exact ⟨k, ⟨m, n, hm, he, hs⟩, ht⟩
    · rintro ⟨k, ⟨m, n, hm, he, hs⟩, ht⟩
      exact ⟨m, n, hm, he, ih.2 ⟨k, hs, ht⟩⟩

/-- Events with which others are interleaved: the others are changes. -/
theorem Runs.of_interleaved [IsPreorder Disk R'] (hR : ∀ d d', R d d' → R' d d')
    {s t u : List Event} (hu : Interleaved s t u)
    (ht : ∀ e ∈ t, ∀ d d', e.Occurs d d' → R' d d') {d d' : Disk} (h : Runs R d u d') :
    Runs R' d s d' := by
  induction hu generalizing d with
  | nil => exact hR d d' h
  | left e _ ih =>
    obtain ⟨m, n, hm, he, h⟩ := h
    exact ⟨m, n, hR d m hm, he, ih ht h⟩
  | right e _ ih =>
    obtain ⟨m, n, hm, he, h⟩ := h
    have hmn : R' m n := ht e List.mem_cons_self m n he
    exact (ih (fun e' he' => ht e' (List.mem_cons_of_mem e he')) h).head
      (Trans.trans (hR d m hm) hmn)

end

/-! ## Jobs among others -/

namespace Behaviour

variable {R R' : Disk → Disk → Prop} {α β : Type}

/-- A job takes a disk to another and ends with a result, while others change the
    disk as `R` says. -/
def Ran (R : Disk → Disk → Prop) (x : Behaviour α) (d : Disk) (a : α) (d' : Disk) : Prop :=
  ∃ t, x t a ∧ Runs R d t d'

/-- A job takes a disk to another and ends with a result. -/
def Executes (x : Behaviour α) (d : Disk) (a : α) (d' : Disk) : Prop := Ran Eq x d a d'

/-- All that a job does to a disk is as `R` says. -/
def Keeps (R : Disk → Disk → Prop) (x : Behaviour α) : Prop :=
  ∀ t a, x t a → ∀ e ∈ t, ∀ d d', e.Occurs d d' → R d d'

theorem Ran.mono (hR : ∀ d d', R d d' → R' d d') {x : Behaviour α} {d d' : Disk} {a : α}
    (h : Ran R x d a d') : Ran R' x d a d' := by
  obtain ⟨t, hx, ht⟩ := h
  exact ⟨t, hx, ht.mono hR⟩

variable {x : Behaviour α} {y : Behaviour β} {d m d' : Disk} {a : α} {b : β}

theorem ran_pure {b : α} : Ran R (pure a) d b d' ↔ b = a ∧ R d d' := by
  constructor
  · rintro ⟨_, ⟨rfl, rfl⟩, h⟩
    exact ⟨rfl, h⟩
  · rintro ⟨rfl, h⟩
    exact ⟨[], ⟨rfl, rfl⟩, h⟩

/-! ### What jobs keep to -/

theorem keeps_pure (a : α) : Keeps R (pure a) := by
  rintro _ _ ⟨rfl, -⟩
  exact nofun

theorem Keeps.bind {f : α → Behaviour β} (hx : Keeps R x) (hf : ∀ a, Keeps R (f a)) :
    Keeps R (x >>= f) := by
  rintro _ b ⟨s, a, u, rfl, hs, hu⟩ e he
  rcases List.mem_append.1 he with he | he
  · exact hx s a hs e he
  · exact hf a u b hu e he

theorem Abreast.keeps {xs : List (Behaviour α)} {t : List Event} {as : List (Option α)}
    (h : Abreast xs t as) (hxs : ∀ x ∈ xs, Keeps R x) :
    ∀ e ∈ t, ∀ d d', e.Occurs d d' → R d d' := by
  induction h with
  | nil => exact nofun
  | begun hx _ hu ih =>
    obtain ⟨hfirst, hrest⟩ := List.forall_mem_cons.1 hxs
    intro e he
    rcases hu.mem.1 he with he | he
    · exact hfirst _ _ hx e he
    · exact ih hrest e he
  | leftOut x _ ih => exact ih (List.forall_mem_cons.1 hxs).2

/-- A result is that of a job that has begun. -/
theorem Abreast.forall₂ {xs : List (Behaviour α)} {t : List Event} {as : List (Option α)}
    (h : Abreast xs t as) : List.Forall₂ (fun x r => ∀ a ∈ r, ∃ s, x s a) xs as := by
  induction h with
  | nil => exact .nil
  | @begun _ _ s _ _ _ _ hx _ _ ih =>
    refine .cons (fun b hb => ⟨s, ?_⟩) ih
    rwa [← Option.some.inj hb]
  | leftOut x _ ih => exact .cons nofun ih

theorem keeps_all {ε : Type} {xs : List (Behaviour (Except ε α))} (hxs : ∀ x ∈ xs, Keeps R x) :
    Keeps R (Concurrent.all xs) := by
  rintro t r ⟨rs, h, -⟩
  exact h.keeps hxs

theorem rel_of_eq [IsPreorder Disk R] (d d' : Disk) (h : d = d') : R d d' := h ▸ refl d

/-! ### Jobs side by side -/

/-- **A job that runs beside another** runs while the other changes the disk. -/
theorem ran_of_both_left [IsPreorder Disk R'] (hR : ∀ d d', R d d' → R' d d') (hy : Keeps R' y)
    (h : Ran R (Concurrent.both x y) d (a, b) d') : Ran R' x d a d' := by
  obtain ⟨t, ⟨s, u, hsu, hxs, hyu⟩, ht⟩ := h
  exact ⟨s, hxs, ht.of_interleaved hR hsu (hy u b hyu)⟩

/-- What a job does that ends with a result, while another changes the disk, is all
    that the other has to reckon with. -/
theorem ran_of_both_result {S : Disk → Disk → Prop} [IsPreorder Disk R'] [IsPreorder Disk S]
    (hR : ∀ d d', R d d' → R' d d') (hS : ∀ d d', R d d' → S d d') (hy : Keeps S y)
    (hx : ∀ t, x t a → Runs S d t d' → ∀ e ∈ t, ∀ m n, e.Occurs m n → R' m n)
    (h : Ran R (Concurrent.both x y) d (a, b) d') : Ran R' y d b d' := by
  obtain ⟨t, ⟨s, u, hsu, hxs, hyu⟩, ht⟩ := h
  have hs : Runs S d s d' := ht.of_interleaved hS hsu (hy u b hyu)
  exact ⟨u, hyu, ht.of_interleaved hR hsu.symm (hx s hxs hs)⟩

theorem ran_of_both_right [IsPreorder Disk R'] (hR : ∀ d d', R d d' → R' d d') (hx : Keeps R' x)
    (h : Ran R (Concurrent.both x y) d (a, b) d') : Ran R' y d b d' := by
  obtain ⟨t, ⟨s, u, hsu, hxs, hyu⟩, ht⟩ := h
  exact ⟨u, hyu, ht.of_interleaved hR hsu.symm (hx s a hxs)⟩

/-- A job that does nothing makes no difference to another. -/
theorem ran_both_pure {c : α} :
    Ran R (Concurrent.both (pure c) y) d (a, b) d' ↔ a = c ∧ Ran R y d b d' := by
  constructor
  · rintro ⟨t, ⟨s, u, hsu, ⟨rfl, rfl⟩, hyu⟩, ht⟩
    exact ⟨rfl, u, hyu, hsu.eq_of_nil ▸ ht⟩
  · rintro ⟨rfl, u, hyu, hu⟩
    exact ⟨u, ⟨[], u, Interleaved.append [] u, ⟨rfl, rfl⟩, hyu⟩, hu⟩

/-! ### Jobs one after the other -/

section
variable [IsPreorder Disk R]

theorem ran_bind {f : α → Behaviour β} :
    Ran R (x >>= f) d b d' ↔ ∃ a m, Ran R x d a m ∧ Ran R (f a) m b d' := by
  constructor
  · rintro ⟨_, ⟨s, a, u, rfl, hx, hf⟩, h⟩
    obtain ⟨m, hs, hu⟩ := runs_append.1 h
    exact ⟨a, m, ⟨s, hx, hs⟩, u, hf, hu⟩
  · rintro ⟨a, m, ⟨s, hx, hs⟩, u, hf, hu⟩
    exact ⟨s ++ u, ⟨s, a, u, rfl, hx, hf⟩, runs_append.2 ⟨m, hs, hu⟩⟩

theorem Ran.tail (h : Ran R x d a m) (hm : R m d') : Ran R x d a d' := by
  have hbind : Ran R (x >>= pure) d a d' := ran_bind.2 ⟨a, m, h, ran_pure.2 ⟨rfl, hm⟩⟩
  rwa [bind_pure] at hbind

/-- What is done by a job, and by others who keep to the same, keeps to it. -/
theorem Ran.rel (h : Ran R x d a d') (hx : Keeps R x) : R d d' := by
  obtain ⟨t, hxt, ht⟩ := h
  have hall := hx t a hxt
  clear hxt hx
  induction t generalizing d with
  | nil => exact ht
  | cons e t ih =>
    obtain ⟨m, n, hm, he, ht⟩ := ht
    have hmn : R m n := hall e List.mem_cons_self m n he
    exact Trans.trans (Trans.trans hm hmn)
      (ih ht fun e' he' => hall e' (List.mem_cons_of_mem e he'))

/-- Jobs that keep to the same each run among others who keep to it, if they have begun. -/
theorem ran_of_abreast {xs : List (Behaviour α)} (hxs : ∀ x ∈ xs, Keeps R x) {t : List Event}
    {as : List (Option α)} (h : Abreast xs t as) (ht : Runs R d t d') :
    List.Forall₂ (fun x r => ∀ a ∈ r, Ran R x d a d') xs as := by
  induction h with
  | nil => exact .nil
  | begun hx hall hu ih =>
    obtain ⟨hfirst, hrest⟩ := List.forall_mem_cons.1 hxs
    have hs := ht.of_interleaved (fun _ _ => id) hu (hall.keeps hrest)
    have ht := ht.of_interleaved (fun _ _ => id) hu.symm (hfirst _ _ hx)
    refine .cons (fun b hb => ?_) (ih hrest ht)
    obtain rfl := Option.some.inj hb
    exact ⟨_, hx, hs⟩
  | leftOut x _ ih => exact .cons nofun (ih (List.forall_mem_cons.1 hxs).2 ht)

end

/-! ### Operations -/

/-- An operation runs between changes by others. -/
theorem ran_operation {event : α → Event} (hx : ∀ t a, x t a ↔ t = [event a]) :
    Ran R x d a d' ↔ ∃ m n, R d m ∧ (event a).Occurs m n ∧ R n d' := by
  constructor
  · rintro ⟨t, ht, h⟩
    rwa [(hx t a).1 ht] at h
  · intro h
    exact ⟨[event a], (hx _ a).2 rfl, h⟩

theorem keeps_operation {event : α → Event} (hx : ∀ t a, x t a ↔ t = [event a])
    (h : ∀ a d d', (event a).Occurs d d' → R d d') : Keeps R x := by
  intro t a ht e he d d' hd
  rw [(hx t a).1 ht, List.mem_singleton] at he
  exact h a d d' (he ▸ hd)

section
variable {path : String} {content : ByteArray}

theorem ran_readFile {r : Except FileError ByteArray} :
    Ran R (FileSystem.readFile path) d r d' ↔ ∃ m, R d m ∧ m.readFile path = r ∧ R m d' := by
  refine (ran_operation fun t a => Iff.rfl).trans ⟨?_, ?_⟩
  · rintro ⟨m, n, hm, h, hn⟩
    obtain ⟨rfl, rfl⟩ := Prod.mk.inj h
    exact ⟨m, hm, rfl, hn⟩
  · rintro ⟨m, hm, rfl, hn⟩
    exact ⟨m, m, hm, rfl, hn⟩

theorem ran_isDirectory {r : Bool} :
    Ran R (FileSystem.isDirectory path) d r d' ↔
      ∃ m, R d m ∧ m.isDirectory path = r ∧ R m d' := by
  refine (ran_operation fun t a => Iff.rfl).trans ⟨?_, ?_⟩
  · rintro ⟨m, n, hm, h, hn⟩
    obtain ⟨rfl, rfl⟩ := Prod.mk.inj h
    exact ⟨m, hm, rfl, hn⟩
  · rintro ⟨m, hm, rfl, hn⟩
    exact ⟨m, m, hm, rfl, hn⟩

/-- What comes of an operation that may change the disk: it does, or it fails and
    leaves the disk alone. -/
def Outcome (r : Except FileError Unit) (made : Except FileError Disk) (d d' : Disk) : Prop :=
  (r = .ok () ∧ made = .ok d') ∨ ∃ e, r = .error e ∧ made = .error e ∧ d' = d

theorem outcome_iff {r : Except FileError Unit} {made : Except FileError Disk} :
    (match made with
      | .ok d => (.ok (), d)
      | .error e => (.error e, d)) = (r, d') ↔ Outcome r made d d' := by
  cases made with
  | ok n =>
    constructor
    · intro h
      obtain ⟨rfl, rfl⟩ := Prod.mk.inj h
      exact Or.inl ⟨rfl, rfl⟩
    · rintro (⟨rfl, h⟩ | ⟨e, -, h, -⟩)
      · rw [Except.ok.inj h]
      · cases h
  | error e =>
    constructor
    · intro h
      obtain ⟨rfl, rfl⟩ := Prod.mk.inj h
      exact Or.inr ⟨e, rfl, rfl, rfl⟩
    · rintro (⟨-, h⟩ | ⟨e', rfl, h, rfl⟩)
      · cases h
      · rw [Except.error.inj h]

theorem ran_makeDir {r : Except FileError Unit} :
    Ran R (FileSystem.makeDir path) d r d' ↔
      ∃ m n, R d m ∧ Outcome r (m.makeDir path) m n ∧ R n d' := by
  simp only [← outcome_iff]
  exact ran_operation fun t a => Iff.rfl

theorem ran_writeFile {r : Except FileError Unit} :
    Ran R (FileSystem.writeFile path content) d r d' ↔
      ∃ m n, R d m ∧ Outcome r (m.writeFile path content) m n ∧ R n d' := by
  simp only [← outcome_iff]
  exact ran_operation fun t a => Iff.rfl

variable [IsPreorder Disk R]

theorem keeps_readFile (path : String) : Keeps R (FileSystem.readFile path) := by
  refine keeps_operation (fun t a => Iff.rfl) fun a d d' h => ?_
  obtain ⟨-, rfl⟩ := Prod.mk.inj h
  exact refl d

theorem keeps_isDirectory (path : String) : Keeps R (FileSystem.isDirectory path) := by
  refine keeps_operation (fun t a => Iff.rfl) fun a d d' h => ?_
  obtain ⟨-, rfl⟩ := Prod.mk.inj h
  exact refl d

theorem Outcome.rel {r : Except FileError Unit} {made : Except FileError Disk}
    (h : Outcome r made d d') (hR : ∀ n, made = .ok n → R d n) : R d d' := by
  rcases h with ⟨-, h⟩ | ⟨e, -, -, rfl⟩
  · exact hR d' h
  · exact refl d'

theorem keeps_makeDir (h : ∀ d d', d.makeDir path = .ok d' → R d d') :
    Keeps R (FileSystem.makeDir path) :=
  keeps_operation (fun _ _ => Iff.rfl) fun _ d _ ha => (outcome_iff.1 ha).rel (h d)

theorem keeps_writeFile (h : ∀ d d', d.writeFile path content = .ok d' → R d d') :
    Keeps R (FileSystem.writeFile path content) :=
  keeps_operation (fun _ _ => Iff.rfl) fun _ d _ ha => (outcome_iff.1 ha).rel (h d)

end

end Behaviour

end Pagewright
