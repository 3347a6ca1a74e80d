/-
  Where paths lead on a disk.

  * `Disk.place` is where a path leads by its text, `Disk.way` are the places
    that have to be directories for it to lead there;
  * `walk_eq_ok_iff`: names lead to a directory exactly if they are short enough
    and every place on the way is a directory.
-/
import Pagewright.Proofs.Files.Ancestors
import Pagewright.Files.Disk

namespace Pagewright

/-! ## Locations -/

namespace Location

/-- Where a name leads from a place. -/
def follow (loc : Location) (name : String) : Location :=
  if name = ".." then loc.dropLast else loc ++ [name]

/-- A place and the places that names lead to from it, one after the other. -/
def trail (loc : Location) : List String → List Location
  | [] => [loc]
  | n :: ns => loc :: trail (follow loc n) ns

theorem mem_trail_self (loc : Location) (ns : List String) : loc ∈ trail loc ns := by
  cases ns <;> simp [trail]

theorem trail_concat (loc : Location) (ns : List String) (n : String) :
    trail loc (ns ++ [n]) = trail loc ns ++ [(ns ++ [n]).foldl follow loc] := by
  induction ns generalizing loc with
  | nil => rfl
  | cons m ns ih =>
    rw [List.cons_append, trail, ih]
    rfl

theorem foldl_mem_trail (loc : Location) (ns : List String) :
    ns.foldl follow loc ∈ trail loc ns := by
  induction ns generalizing loc with
  | nil => exact mem_trail_self loc []
  | cons n ns ih => exact List.mem_cons_of_mem _ (ih _)

theorem trail_subset {loc : Location} {ms ns : List String} (h : ms <+: ns) :
    trail loc ms ⊆ trail loc ns := by
  induction ms generalizing loc ns with
  | nil =>
    intro l hl
    obtain rfl := List.mem_singleton.1 hl
    exact mem_trail_self l ns
  | cons m ms ih =>
    obtain ⟨rs, rfl⟩ := h
    exact List.cons_subset_cons _ (ih (List.prefix_append ms rs))

/-- Names that lead no place up lead to a place below. -/
theorem foldl_follow_of_not_mem {ns : List String} (h : ".." ∉ ns) (loc : Location) :
    ns.foldl follow loc = loc ++ ns := by
  induction ns generalizing loc with
  | nil => rw [List.foldl_nil, List.append_nil]
  | cons n ns ih =>
    rw [List.mem_cons, not_or] at h
    rw [List.foldl_cons, follow, if_neg (Ne.symm h.1), ih h.2, List.append_assoc]
    rfl

theorem prefix_of_mem_trail {ns : List String} (h : ".." ∉ ns) {loc l : Location}
    (hl : l ∈ trail loc ns) : l <+: ns.foldl follow loc := by
  induction ns generalizing loc with
  | nil => exact List.mem_singleton.1 hl ▸ List.prefix_refl loc
  | cons n ns ih =>
    rcases List.mem_cons.1 hl with rfl | hl
    · rw [foldl_follow_of_not_mem h]
      exact List.prefix_append l _
    · exact ih (fun hn => h (List.mem_cons_of_mem n hn)) hl

/-- Names that first lead up, and then down only, go through places above the one
    they start from and above the one they lead to. -/
theorem prefix_of_mem_trail_up {ns : List String} (h : ".." ∉ ns) {k : Nat} {loc l : Location}
    (hl : l ∈ trail loc (List.replicate k ".." ++ ns)) :
    l <+: loc ∨ l <+: (List.replicate k ".." ++ ns).foldl follow loc := by
  induction k generalizing loc with
  | zero => exact Or.inr (prefix_of_mem_trail h hl)
  | succ k ih =>
    rw [List.replicate_succ, List.cons_append] at hl ⊢
    rcases List.mem_cons.1 hl with rfl | hl
    · exact Or.inl (List.prefix_refl l)
    · rcases ih hl with hl | hl
      · exact Or.inl (hl.trans (List.dropLast_prefix loc))
      · exact Or.inr hl

end Location

/-! ## Places -/

/-- A text that names something in a directory. -/
structure Path.IsName (s : String) : Prop where
  no_slash : '/' ∉ s.toList
  ne_empty : s ≠ ""
  ne_dot : s ≠ "."
  ne_dots : s ≠ ".."

/-- A path in which no name leads up but the first ones. -/
def Path.UpFirst (path : String) : Prop :=
  ∃ k ns, Path.solid path = List.replicate k ".." ++ ns ∧ ".." ∉ ns

namespace Disk

variable (d : Disk)

/-- Where a path starts. -/
def start (path : String) : Location := if Path.isAbsolute path then [] else d.current

/-- Where a path leads if all that is on its way is a directory. -/
def place (path : String) : Location := (Path.solid path).foldl Location.follow (d.start path)

/-- The places on the way to the last name of a path. -/
def way (path : String) : List Location := Location.trail (d.start path) (Path.approach path)

/-- The places on the way of a path, its own place among them. -/
def trail (path : String) : List Location := Location.trail (d.start path) (Path.solid path)

variable {d}

/-- The places of a path are those on its way and its own. -/
theorem mem_trail_iff {path : String} {l : Location} :
    l ∈ d.trail path ↔ l ∈ d.way path ∨ l = d.place path := by
  rw [trail, way, place, Path.solid, Path.approach]
  rcases List.eq_nil_or_concat (Path.names path) with h | ⟨ns, n, h⟩
  · rw [h]
    show l ∈ [d.start path] ↔ l ∈ [d.start path] ∨ l = d.start path
    rw [List.mem_singleton, or_self]
  · rw [h, List.concat_eq_append, List.dropLast_concat, Path.solidNames_append]
    by_cases hn : n = "."
    · have hsolid : Path.solidNames [n] = [] := by simp [Path.solidNames, hn]
      rw [hsolid, List.append_nil]
      refine ⟨Or.inl, ?_⟩
      rintro (h | rfl)
      · exact h
      · exact Location.foldl_mem_trail _ _
    · have hsolid : Path.solidNames [n] = [n] := by simp [Path.solidNames, hn]
      rw [hsolid, Location.trail_concat, List.mem_append, List.mem_singleton]

/-- A path that leads up first goes through places above its own and above the one
    it starts from. -/
theorem prefix_of_mem_trail {path : String} (h : Path.UpFirst path) {l : Location}
    (hl : l ∈ d.trail path) : l <+: d.start path ∨ l <+: d.place path := by
  obtain ⟨k, ns, hsolid, hns⟩ := h
  unfold trail at hl
  unfold place
  rw [hsolid] at hl ⊢
  exact Location.prefix_of_mem_trail_up hns hl

theorem trail_subset_of_above {path a : String} (h : Path.Above path a) :
    d.trail a ⊆ d.trail path := by
  have hstart : d.start a = d.start path := by rw [start, start, h.absolute]
  obtain ⟨ns, hns⟩ := h.names
  rw [trail, trail, hstart]
  refine Location.trail_subset ⟨Path.solidNames ns, ?_⟩
  rw [Path.solid, Path.solid, ← hns, Path.solidNames_append]

/-- The last name of a path is the last name of its place, if it leads down. -/
theorem getLast?_place {path n : String} (h : (Path.names path).getLast? = some n) (hdot : n ≠ ".")
    (hdots : n ≠ "..") : (d.place path).getLast? = some n := by
  obtain ⟨ns, hns⟩ := List.getLast?_eq_some_iff.1 h
  have hsolid : Path.solidNames [n] = [n] := by simp [Path.solidNames, hdot]
  rw [place, Path.solid, hns, Path.solidNames_append, hsolid, List.foldl_append, List.foldl_cons,
    List.foldl_nil, Location.follow, if_neg hdots, List.getLast?_concat]

/-! ## Names behind a path -/

theorem start_join (directory : String) {name : String} (h : Path.IsName name) :
    d.start (Path.join directory name) = d.start directory := by
  rw [start, start, Path.isAbsolute_join (Path.not_isAbsolute_of_not_mem h.no_slash)]

theorem names_join (directory : String) {name : String} (h : Path.IsName name) :
    Path.names (Path.join directory name) = Path.names directory ++ [name] := by
  rw [Path.names_join directory (Path.not_isAbsolute_of_not_mem h.no_slash),
    Path.names_of_not_mem h.no_slash h.ne_empty]

/-- The way to a name behind a path goes through the places of the path. -/
theorem way_join (directory : String) {name : String} (h : Path.IsName name) :
    d.way (Path.join directory name) = d.trail directory := by
  rw [way, trail, start_join directory h, Path.approach, names_join directory h,
    List.dropLast_concat]
  rfl

/-- A name behind a path leads from the place of the path. -/
theorem place_join (directory : String) {name : String} (h : Path.IsName name) :
    d.place (Path.join directory name) = d.place directory ++ [name] := by
  have hsolid : Path.solidNames [name] = [name] := by simp [Path.solidNames, h.ne_dot]
  rw [place, place, start_join directory h, Path.solid, names_join directory h,
    Path.solidNames_append, hsolid, List.foldl_append]
  exact if_neg h.ne_dots

/-! ## Entries -/

theorem lookup_putEntry (loc l : Location) (e : Entry) (entries : List (Location × Entry)) :
    (putEntry loc e entries).lookup l = if l = loc then some e else entries.lookup l := by
  induction entries with
  | nil =>
    by_cases h : l = loc
    · subst h
      simp [putEntry]
    · have hb : (l == loc) = false := beq_eq_false_iff_ne.2 h
      simp [putEntry, List.lookup_cons, hb, h]
  | cons x entries ih =>
    obtain ⟨k, v⟩ := x
    by_cases hk : k = loc
    · subst hk
      by_cases h : l = k
      · subst h
        simp [putEntry]
      · have hb : (l == k) = false := beq_eq_false_iff_ne.2 h
        simp [putEntry, List.lookup_cons, hb, h]
    · by_cases h : l = k
      · subst h
        simp [putEntry, hk]
      · have hb : (l == k) = false := beq_eq_false_iff_ne.2 h
        simp [putEntry, List.lookup_cons, hb, hk, ih]

/-- The root is always there; elsewhere there is what has been put there. -/
theorem find?_put (loc : Location) (e : Entry) (l : Location) :
    (d.put loc e).find? l = if l = loc ∧ l ≠ [] then some e else d.find? l := by
  unfold find? put
  by_cases hl : l = []
  · simp [hl]
  · simp [hl, lookup_putEntry]

/-- A place is a directory. -/
def IsDir (d : Disk) (l : Location) : Prop := d.find? l = some .directory

instance (d : Disk) (l : Location) : Decidable (d.IsDir l) :=
  inferInstanceAs (Decidable (d.find? l = some .directory))

theorem isDir_nil (d : Disk) : d.IsDir [] := rfl

theorem enter_eq_ok_iff {l : Location} : d.enter l = .ok () ↔ d.IsDir l := by
  unfold enter IsDir
  split <;> simp_all

theorem enter_eq_error {l : Location} (h : ∀ c, d.find? l ≠ some (.file c)) {e : FileError}
    (he : d.enter l = .error e) : e = .notFound := by
  unfold enter at he
  split at he
  · exact (Except.error.inj he).symm
  · cases he
  next c hc => exact absurd hc (h c)

/-! ## Following names -/

/-- A name that is short enough leads on, and no other. -/
theorem step_eq_ok_iff {loc l : Location} {n : String} :
    step loc n = .ok l ↔
      n.utf8ByteSize ≤ maxName ∧ l = (Path.solidNames [n]).foldl Location.follow loc := by
  unfold step
  split_ifs with hdot hdots hlong
  · subst hdot
    exact ⟨fun h => ⟨by decide, (Except.ok.inj h).symm⟩, fun h => congrArg _ h.2.symm⟩
  · subst hdots
    exact ⟨fun h => ⟨by decide, (Except.ok.inj h).symm⟩, fun h => congrArg _ h.2.symm⟩
  · exact ⟨nofun, fun h => absurd h.1 (Nat.not_le.2 hlong)⟩
  · have hsolid : Path.solidNames [n] = [n] := by simp [Path.solidNames, hdot]
    have hfollow : Location.follow loc n = loc ++ [n] := if_neg hdots
    rw [hsolid, List.foldl_cons, List.foldl_nil, hfollow]
    exact ⟨fun h => ⟨Nat.not_lt.1 hlong, (Except.ok.inj h).symm⟩, fun h => congrArg _ h.2.symm⟩

theorem forall_mem_trail_cons {P : Location → Prop} {loc : Location} {n : String}
    {ns : List String} :
    (∀ l ∈ Location.trail loc (Path.solidNames (n :: ns)), P l) ↔
      P loc ∧ ∀ l ∈ Location.trail ((Path.solidNames [n]).foldl Location.follow loc)
        (Path.solidNames ns), P l := by
  by_cases hn : n = "."
  · have hcons : Path.solidNames (n :: ns) = Path.solidNames ns := by simp [Path.solidNames, hn]
    have hsolid : Path.solidNames [n] = [] := by simp [Path.solidNames, hn]
    rw [hcons, hsolid]
    exact ⟨fun h => ⟨h loc (Location.mem_trail_self loc _), h⟩, fun h => h.2⟩
  · have hcons : Path.solidNames (n :: ns) = n :: Path.solidNames ns := by
      simp [Path.solidNames, hn]
    have hsolid : Path.solidNames [n] = [n] := by simp [Path.solidNames, hn]
    rw [hcons, hsolid, Location.trail, List.forall_mem_cons]
    rfl

theorem walk_cons_eq_ok_iff {loc base : Location} {n : String} {ns : List String} :
    d.walk loc (n :: ns) = .ok base ↔
      d.IsDir loc ∧ ∃ l, step loc n = .ok l ∧ d.walk l ns = .ok base := by
  rw [walk, ← enter_eq_ok_iff]
  cases d.enter loc with
  | error e => exact ⟨nofun, nofun⟩
  | ok u =>
    cases hstep : step loc n with
    | error e => exact ⟨nofun, nofun⟩
    | ok l => exact ⟨fun h => ⟨rfl, l, rfl, h⟩, fun ⟨_, _, h, hw⟩ => Except.ok.inj h ▸ hw⟩

/-- Names lead to a directory exactly if they are short enough and all places on
    the way are directories. -/
theorem walk_eq_ok_iff {loc base : Location} {ns : List String} :
    d.walk loc ns = .ok base ∧ d.IsDir base ↔
      (∀ n ∈ ns, n.utf8ByteSize ≤ maxName) ∧
        (∀ l ∈ Location.trail loc (Path.solidNames ns), d.IsDir l) ∧
          base = (Path.solidNames ns).foldl Location.follow loc := by
  induction ns generalizing loc with
  | nil =>
    constructor
    · rintro ⟨h, hbase⟩
      obtain rfl := Except.ok.inj h
      exact ⟨nofun, fun l hl => List.mem_singleton.1 hl ▸ hbase, rfl⟩
    · rintro ⟨-, h, rfl⟩
      exact ⟨rfl, h _ (Location.mem_trail_self _ _)⟩
  | cons n ns ih =>
    have hfold : (Path.solidNames (n :: ns)).foldl Location.follow loc =
        (Path.solidNames ns).foldl Location.follow
          ((Path.solidNames [n]).foldl Location.follow loc) := by
      rw [← List.foldl_append, ← Path.solidNames_append]
      rfl
    rw [walk_cons_eq_ok_iff, List.forall_mem_cons, forall_mem_trail_cons, hfold]
    constructor
    · rintro ⟨⟨hloc, l, hstep, hwalk⟩, hbase⟩
      obtain ⟨hn, rfl⟩ := step_eq_ok_iff.1 hstep
      obtain ⟨hns, htrail, hend⟩ := ih.1 ⟨hwalk, hbase⟩
      exact ⟨⟨hn, hns⟩, ⟨hloc, htrail⟩, hend⟩
    · rintro ⟨⟨hn, hns⟩, ⟨hloc, htrail⟩, hend⟩
      obtain ⟨hwalk, hbase⟩ := ih.2 ⟨hns, htrail, hend⟩
      exact ⟨⟨hloc, _, step_eq_ok_iff.2 ⟨hn, rfl⟩, hwalk⟩, hbase⟩

/-- Where no file is on the way, all that can fail is that a directory is not
    there. -/
theorem walk_eq_error {loc : Location} {ns : List String}
    (hns : ∀ n ∈ ns, n.utf8ByteSize ≤ maxName)
    (h : ∀ l ∈ Location.trail loc (Path.solidNames ns), ∀ c, d.find? l ≠ some (.file c))
    {e : FileError} (he : (do d.enter (← d.walk loc ns)) = .error e) : e = .notFound := by
  induction ns generalizing loc with
  | nil => exact enter_eq_error (h loc (Location.mem_trail_self _ _)) he
  | cons n ns ih =>
    obtain ⟨hn, hns⟩ := List.forall_mem_cons.1 hns
    obtain ⟨hloc, htrail⟩ := forall_mem_trail_cons.1 h
    rw [walk] at he
    cases henter : d.enter loc with
    | error e' =>
      rw [henter] at he
      obtain rfl := Except.error.inj he
      exact enter_eq_error hloc henter
    | ok u =>
      rw [henter, step_eq_ok_iff.2 ⟨hn, rfl⟩] at he
      exact ih hns htrail he

end Disk

end Pagewright
