/-
  The names of a path, and the paths above it.

  * `solid` leaves out the names that lead nowhere else, `approach` are the
    names before the last one;
  * `names_join`: the names of a path behind another;
  * `ladder_ancestors`: each path above a path leads to where the one before it
    is to be found, up to one that leads to where all paths start.
-/
import Pagewright.Proofs.Files.Split

namespace Pagewright.Path

/-! ## Names -/

/-- The names that lead somewhere else. -/
def solidNames (ns : List String) : List String := ns.filter (· ≠ ".")

/-- The names of a path that lead somewhere else. -/
def solid (path : String) : List String := solidNames (names path)

/-- The names that are followed before the last one. -/
def approach (path : String) : List String := solidNames (names path).dropLast

/-- The names among the parts of a path. -/
def partNames (parts : List (List Char)) : List String :=
  (parts.filter (!·.isEmpty)).map String.ofList

theorem names_eq (path : String) : names path = partNames (split '/' path.toList) := rfl

theorem partNames_append (ps qs : List (List Char)) :
    partNames (ps ++ qs) = partNames ps ++ partNames qs := by
  simp [partNames]

theorem partNames_mono {ps qs : List (List Char)} (h : ps <+: qs) :
    partNames ps <+: partNames qs := by
  obtain ⟨rs, rfl⟩ := h
  exact ⟨partNames rs, (partNames_append ps rs).symm⟩

theorem solidNames_append (ms ns : List String) :
    solidNames (ms ++ ns) = solidNames ms ++ solidNames ns := by
  simp [solidNames]

/-- An idle part adds no name that leads somewhere else. -/
theorem solidNames_of_isIdle {p : List Char} (h : isIdle p) : solidNames (partNames [p]) = [] := by
  simp only [isIdle, Bool.or_eq_true, decide_eq_true_eq] at h
  rcases h with rfl | rfl <;> rfl

theorem partNames_of_not_isIdle {p : List Char} (h : ¬isIdle p) :
    partNames [p] = [String.ofList p] ∧ String.ofList p ≠ "." := by
  simp only [isIdle, Bool.or_eq_true, decide_eq_true_eq, not_or] at h
  refine ⟨by simp [partNames, h.1], fun hp => h.2 ?_⟩
  have := congrArg String.toList hp
  simpa using this

theorem solidNames_of_not_isIdle {p : List Char} (h : ¬isIdle p) :
    solidNames (partNames [p]) = [String.ofList p] := by
  obtain ⟨hp, hne⟩ := partNames_of_not_isIdle h
  simp [hp, solidNames, hne]

/-! ## Paths behind paths -/

theorem names_append_slash (a b : String) : names (a ++ "/" ++ b) = names a ++ names b := by
  have h : (a ++ "/" ++ b).toList = a.toList ++ '/' :: b.toList := by simp
  rw [names_eq, h, split_append, partNames_append]
  rfl

theorem names_of_not_mem {s : String} (h : '/' ∉ s.toList) (hne : s ≠ "") : names s = [s] := by
  have hs : s.toList ≠ [] := mt String.toList_eq_nil_iff.1 hne
  rw [names_eq, split_of_not_mem h]
  simp [partNames, hs]

theorem not_isAbsolute_of_not_mem {s : String} (h : '/' ∉ s.toList) : isAbsolute s = false := by
  rw [isAbsolute, beq_eq_false_iff_ne]
  intro hs
  exact h (List.mem_of_mem_head? (by rw [hs]; rfl))

/-- A text that ends in a slash, up to the slash. -/
theorem exists_of_endsInSlash {a : String} (h : endsInSlash a) : ∃ b, a = b ++ "/" := by
  rw [endsInSlash, beq_iff_eq, List.getLast?_eq_some_iff] at h
  obtain ⟨cs, hcs⟩ := h
  refine ⟨String.ofList cs, String.toList_inj.1 ?_⟩
  simp [hcs]

/-- The names of a path behind another. -/
theorem names_join (a : String) {b : String} (hb : isAbsolute b = false) :
    names (join a b) = names a ++ names b := by
  unfold join
  split_ifs with h₁ h₂
  · rw [hb] at h₁
    cases h₁
  · rw [Bool.or_eq_true, decide_eq_true_eq] at h₂
    rcases h₂ with rfl | ha
    · rw [String.empty_append]
      rfl
    · obtain ⟨o, rfl⟩ := exists_of_endsInSlash ha
      have hempty : names (o ++ "/" ++ "") = names o ++ names "" := names_append_slash o ""
      rw [String.append_empty] at hempty
      rw [names_append_slash, hempty]
      exact congrArg (· ++ names b) (List.append_nil _).symm
  · exact names_append_slash a b

theorem isAbsolute_join {a b : String} (hb : isAbsolute b = false) :
    isAbsolute (join a b) = isAbsolute a := by
  unfold join
  by_cases ha : a = ""
  · subst ha
    simp [hb]
    rfl
  · obtain ⟨c, cs, hcs⟩ := List.exists_cons_of_ne_nil (mt String.toList_eq_nil_iff.1 ha)
    split_ifs with h₁
    · rw [hb] at h₁
      cases h₁
    all_goals simp [isAbsolute, hcs]

/-- The last name of a path behind another is its own last name. -/
theorem getLast?_names_join (a : String) {b n : String} (h : (names b).getLast? = some n) :
    (names (join a b)).getLast? = some n := by
  by_cases hb : isAbsolute b
  · rw [join, if_pos hb, h]
  · rw [names_join a (Bool.eq_false_iff.2 hb), List.getLast?_append, h]
    rfl

/-- A path that ends in a text without slashes has a last name that ends in it. -/
theorem getLast?_names_append (s : String) {w : String} (hslash : '/' ∉ w.toList) (hne : w ≠ "") :
    ∃ stem, (names (s ++ w)).getLast? = some (stem ++ w) := by
  obtain ⟨ps, p, hps⟩ := split_append_last s.toList hslash
  refine ⟨String.ofList p, ?_⟩
  have hw : w.toList ≠ [] := mt String.toList_eq_nil_iff.1 hne
  have hlast : partNames [p ++ w.toList] = [String.ofList p ++ w] := by
    have hempty : (p ++ w.toList).isEmpty = false := by simp [hw]
    have htext : String.ofList (p ++ w.toList) = String.ofList p ++ w :=
      String.toList_inj.1 (by simp)
    simp only [partNames, List.filter_cons, hempty, Bool.not_false, if_true, List.filter_nil,
      List.map_cons, List.map_nil, htext]
  rw [names_eq, String.toList_append, hps, partNames_append, hlast, List.getLast?_concat]

/-! ## Paths above paths -/

/-- All beginnings of a list but itself, the longest first. -/
def beginnings {α : Type} : List α → List (List α)
  | [] => []
  | x :: xs => (beginnings xs).map (x :: ·) ++ [[]]

theorem beginnings_concat {α : Type} (xs : List α) (x : α) :
    beginnings (xs ++ [x]) = xs :: beginnings xs := by
  induction xs with
  | nil => rfl
  | cons y ys ih => rw [List.cons_append, beginnings, ih]; rfl

/-- A list of paths each of which leads to where the one before it is to be
    found.  The last leads to, or is to be found, where paths start. -/
def Ladder : List String → Prop
  | [] => False
  | [a] => a = "" ∨ approach a = []
  | a :: b :: l => approach a = solid b ∧ isAbsolute a = isAbsolute b ∧ Ladder (b :: l)

/-- A path whose last name leads somewhere else, if it has names at all. -/
def Tidy (path : String) : Prop := approach path = (solid path).dropLast

theorem ladder_of_map_solid {l : List String} {xs : List String}
    (hl : l.map solid = beginnings xs) {absolute : Bool}
    (hall : ∀ a ∈ l, Tidy a ∧ isAbsolute a = absolute) {path : String} (hsolid : solid path = xs)
    (htidy : Tidy path) (habsolute : isAbsolute path = absolute) : Ladder (path :: l) := by
  induction l generalizing path xs with
  | nil =>
    rcases List.eq_nil_or_concat xs with rfl | ⟨ys, y, rfl⟩
    · right
      rw [htidy, hsolid]
      rfl
    · rw [List.concat_eq_append, beginnings_concat] at hl
      cases hl
  | cons b l ih =>
    obtain ⟨⟨hb, hbabs⟩, hl'⟩ := List.forall_mem_cons.1 hall
    rcases List.eq_nil_or_concat xs with rfl | ⟨ys, y, rfl⟩
    · cases hl
    · rw [List.concat_eq_append] at hl hsolid
      rw [beginnings_concat, List.map_cons] at hl
      obtain ⟨hys, hrest⟩ := List.cons.inj hl
      refine ⟨?_, habsolute.trans hbabs.symm, ih hrest hl' hys hb hbabs⟩
      rw [htidy, hsolid, List.dropLast_concat, hys]

theorem Ladder.concat {l : List String} (h : Ladder l) (habs : ∀ a ∈ l, isAbsolute a = false) :
    Ladder (l ++ [""]) := by
  induction l with
  | nil => exact h.elim
  | cons a l ih =>
    obtain ⟨ha, hl⟩ := List.forall_mem_cons.1 habs
    cases l with
    | nil =>
      refine ⟨?_, ha, Or.inl rfl⟩
      rcases h with rfl | h
      · rfl
      · exact h
    | cons b l => exact ⟨h.1, h.2.1, ih h.2.2 hl⟩

/-- What stands before a name among the parts of a path is a beginning of them
    that ends in a part that leads somewhere else. -/
theorem stems_spec (parts : List (List Char)) :
    (∀ stem ∈ stems parts, stem <+: parts ∧ ∀ p ∈ stem.getLast?, ¬isIdle p) ∧
      (stems parts).map (fun stem => solidNames (partNames stem)) =
        beginnings (solidNames (partNames parts)) := by
  induction parts with
  | nil => exact ⟨by simp [stems], rfl⟩
  | cons p parts ih =>
    obtain ⟨hall, hmap⟩ := ih
    have hcons : ∀ ps, partNames (p :: ps) = partNames [p] ++ partNames ps :=
      fun ps => partNames_append [p] ps
    by_cases hp : isIdle p
    · have hstems : stems (p :: parts) =
          (stems parts).map fun stem => if stem.isEmpty then [] else p :: stem := by
        simp [stems, hp]
      rw [hstems]
      constructor
      · simp only [List.forall_mem_map]
        intro stem hstem
        obtain ⟨hbegins, hlast⟩ := hall stem hstem
        cases stem with
        | nil => exact ⟨List.nil_prefix, by simp⟩
        | cons q stem => exact ⟨List.prefix_cons_inj p |>.2 hbegins, by simpa using hlast⟩
      · rw [hcons, solidNames_append, solidNames_of_isIdle hp, List.nil_append, ← hmap,
          List.map_map]
        refine List.map_congr_left fun stem _ => ?_
        cases stem with
        | nil => rfl
        | cons q stem =>
          show solidNames (partNames (p :: q :: stem)) = _
          rw [hcons, solidNames_append, solidNames_of_isIdle hp, List.nil_append]
    · have hstems : stems (p :: parts) = (stems parts).map (p :: ·) ++ [[]] := by
        simp [stems, hp]
      rw [hstems]
      constructor
      · intro stem hstem
        rcases List.mem_append.1 hstem with hstem | hstem
        · obtain ⟨stem, hmem, rfl⟩ := List.mem_map.1 hstem
          obtain ⟨hbegins, hlast⟩ := hall stem hmem
          refine ⟨List.prefix_cons_inj p |>.2 hbegins, ?_⟩
          cases stem with
          | nil => simpa using hp
          | cons q stem => simpa using hlast
        · obtain rfl := List.mem_singleton.1 hstem
          exact ⟨List.nil_prefix, by simp⟩
      · rw [hcons, solidNames_append, solidNames_of_not_isIdle hp, List.singleton_append,
          beginnings, ← hmap, List.map_append, List.map_map, List.map_map]
        refine congrArg (· ++ [[]]) (List.map_congr_left fun stem _ => ?_)
        show solidNames (partNames (p :: stem)) = _
        rw [hcons, solidNames_append, solidNames_of_not_isIdle hp, List.singleton_append]
        rfl

theorem toList_ofParts (parts : List (List Char)) :
    (ofParts parts).toList = ['/'].intercalate parts := by
  rw [ofParts, String.toList_intercalate, List.map_map]
  have hparts : parts.map (String.toList ∘ String.ofList) = parts := by simp
  rw [hparts]
  rfl

theorem names_ofParts {parts : List (List Char)} (h : ∀ p ∈ parts, '/' ∉ p) :
    names (ofParts parts) = partNames parts := by
  rw [names_eq, toList_ofParts]
  by_cases hne : parts = []
  · subst hne
    rfl
  · rw [split_intercalate hne h]

theorem names_slash (s : String) : names ("/" ++ s) = names s := by
  have h : ("/" ++ s).toList = '/' :: s.toList := by simp
  rw [names_eq, h, split_separator]
  rfl

/-- What a path that is above another has to do with it. -/
structure Above (path a : String) : Prop where
  text : a.toList <+: path.toList
  names : names a <+: names path
  absolute : isAbsolute a = isAbsolute path
  tidy : Tidy a

/-- A path whose names are those of a stem, behind a name that leads nowhere
    else at most. -/
theorem solid_of_stem {a : String} {idle : List String} {stem : List (List Char)}
    (hidle : idle = [] ∨ idle = ["."]) (hnames : names a = idle ++ partNames stem)
    (hlast : ∀ p ∈ stem.getLast?, ¬isIdle p) :
    Tidy a ∧ solid a = solidNames (partNames stem) := by
  have hsolid : solidNames idle = [] := by rcases hidle with rfl | rfl <;> rfl
  have ha : solid a = solidNames (partNames stem) := by
    rw [solid, hnames, solidNames_append, hsolid, List.nil_append]
  refine ⟨?_, ha⟩
  rw [Tidy, ha, approach, hnames]
  rcases List.eq_nil_or_concat stem with rfl | ⟨ps, p, rfl⟩
  · rcases hidle with rfl | rfl <;> rfl
  · rw [List.concat_eq_append] at hlast ⊢
    have hp : ¬isIdle p := hlast p (by simp)
    obtain ⟨hname, -⟩ := partNames_of_not_isIdle hp
    rw [partNames_append, hname, ← List.append_assoc, List.dropLast_concat, solidNames_append,
      solidNames_append, ← hname, solidNames_of_not_isIdle hp, List.dropLast_concat, hsolid,
      List.nil_append]

theorem isAbsolute_of_begins {path a : String} (h : a.toList <+: path.toList)
    (hpath : isAbsolute path = false) : isAbsolute a = false := by
  obtain ⟨cs, hcs⟩ := h
  cases ha : a.toList with
  | nil => simp [isAbsolute, ha]
  | cons c l => simpa [isAbsolute, ← hcs, ha] using hpath

/-- Paths that are made of the stems of parts are above the path that is made of
    the parts. -/
theorem above_of_stems {path : String} {idle : List String} {parts : List (List Char)}
    {f : List (List Char) → String} (hidle : idle = [] ∨ idle = ["."])
    (hpath : names path = idle ++ partNames parts)
    (hf : ∀ stem, stem <+: parts → (f stem).toList <+: path.toList ∧
      names (f stem) = idle ++ partNames stem ∧ isAbsolute (f stem) = isAbsolute path) :
    ((stems parts).map f).map solid = beginnings (solid path) ∧
      ∀ a ∈ (stems parts).map f, Above path a := by
  obtain ⟨hall, hmap⟩ := stems_spec parts
  have hsolid : solid path = solidNames (partNames parts) := by
    rw [solid, hpath, solidNames_append]
    rcases hidle with rfl | rfl <;> rfl
  constructor
  · rw [List.map_map, hsolid, ← hmap]
    refine List.map_congr_left fun stem hmem => ?_
    obtain ⟨hbegins, hlast⟩ := hall stem hmem
    exact (solid_of_stem hidle (hf stem hbegins).2.1 hlast).2
  · simp only [List.forall_mem_map]
    intro stem hmem
    obtain ⟨hbegins, hlast⟩ := hall stem hmem
    obtain ⟨htext, hnames, habsolute⟩ := hf stem hbegins
    refine ⟨htext, ?_, habsolute, (solid_of_stem hidle hnames hlast).1⟩
    rw [hnames, hpath, List.prefix_append_right_inj]
    exact partNames_mono hbegins

/-- The paths above a path: one for each beginning of its names that lead
    somewhere else, and for a path that begins with a dot one more. -/
theorem above_spec {path : String} (hne : path ≠ "") :
    ∃ l, (above path = l ∨ above path = l ++ [""] ∧ isAbsolute path = false) ∧
      l.map solid = beginnings (solid path) ∧ ∀ a ∈ l, Above path a := by
  have hslash : ∀ p ∈ split '/' path.toList, '/' ∉ p := not_mem_of_mem_split
  have htext : ['/'].intercalate (split '/' path.toList) = path.toList := intercalate_split _
  have hnames := names_eq path
  unfold above
  rw [if_neg hne]
  split
  next h => exact absurd h (split_ne_nil '/' _)
  next ps h =>
    rw [h] at hslash htext hnames
    have hps := (List.forall_mem_cons.1 hslash).2
    have hpath : path.toList = '/' :: ['/'].intercalate ps := by
      cases ps with
      | nil => exact absurd (String.toList_eq_nil_iff.1 htext.symm) hne
      | cons q ps => rw [← htext, List.intercalate_cons_cons]; rfl
    refine ⟨_, Or.inl rfl, above_of_stems (Or.inl rfl) hnames fun stem hstem => ⟨?_, ?_, ?_⟩⟩
    · rw [String.toList_append, toList_ofParts, hpath]
      exact (List.prefix_cons_inj '/').2 (intercalate_mono hstem)
    · rw [names_slash, names_ofParts fun p hp => hps p (hstem.subset hp)]
      rfl
    · simp [isAbsolute, hpath]
  next ps h =>
    rw [h] at hslash htext hnames
    have hrelative : isAbsolute path = false := by
      cases ps <;> simp [isAbsolute, ← htext, List.intercalate_cons_cons]
    have hbegins : ∀ stem, stem <+: ps → (ofParts (['.'] :: stem)).toList <+: path.toList := by
      intro stem hstem
      rw [toList_ofParts, ← htext]
      exact intercalate_mono ((List.prefix_cons_inj _).2 hstem)
    refine ⟨_, Or.inr ⟨rfl, hrelative⟩, above_of_stems (Or.inr rfl) hnames
      fun stem hstem => ⟨hbegins stem hstem, ?_, ?_⟩⟩
    · rw [names_ofParts fun p hp => hslash p (((List.prefix_cons_inj _).2 hstem).subset hp)]
      rfl
    · rw [isAbsolute_of_begins (hbegins stem hstem) hrelative, hrelative]
  next p ps hempty hdot h =>
    have hrelative : isAbsolute path = false := by
      rw [h] at hslash htext
      obtain ⟨c, w, rfl⟩ := List.exists_cons_of_ne_nil hempty
      have hc : c ≠ '/' := fun hc => hslash (c :: w) (by simp) (by simp [hc])
      cases ps <;> simp [isAbsolute, ← htext, List.intercalate_cons_cons, hc]
    have hbegins : ∀ stem, stem <+: p :: ps → (ofParts stem).toList <+: path.toList := by
      intro stem hstem
      rw [toList_ofParts, ← htext, h]
      exact intercalate_mono hstem
    rw [h] at hslash hnames
    refine ⟨_, Or.inl rfl, above_of_stems (Or.inl rfl) hnames
      fun stem hstem => ⟨hbegins stem hstem, ?_, ?_⟩⟩
    · rw [names_ofParts fun p hp => hslash p (hstem.subset hp)]
      rfl
    · rw [isAbsolute_of_begins (hbegins stem hstem) hrelative, hrelative]

/-- The paths above a path have to do with it. -/
theorem above_of_mem {path a : String} (h : a ∈ above path) : Above path a := by
  have hne : path ≠ "" := by rintro rfl; simp [above] at h
  obtain ⟨l, hl | ⟨hl, hrelative⟩, -, hall⟩ := above_spec hne
  · exact hall a (hl ▸ h)
  · rw [hl] at h
    rcases List.mem_append.1 h with h | h
    · exact hall a h
    · obtain rfl := List.mem_singleton.1 h
      exact ⟨List.nil_prefix, List.nil_prefix, hrelative.symm, rfl⟩

/-- **The paths above a path lead, one after the other, to where the one before
    is to be found.** -/
theorem ladder_ancestors {path : String} (h : Tidy path) : Ladder (ancestors path) := by
  by_cases hne : path = ""
  · subst hne
    exact Or.inl rfl
  obtain ⟨l, hl, hmap, hall⟩ := above_spec hne
  have hladder : Ladder (path :: l) :=
    ladder_of_map_solid hmap (fun a ha => ⟨(hall a ha).tidy, (hall a ha).absolute⟩) rfl h rfl
  rcases hl with hl | ⟨hl, hrelative⟩
  · rw [ancestors, hl]
    exact hladder
  · rw [ancestors, hl]
    refine hladder.concat (List.forall_mem_cons.2 ⟨hrelative, fun a ha => ?_⟩)
    rw [(hall a ha).absolute, hrelative]

/-! ## The path above a path -/

theorem tidy_of_getLast? {path n : String} (h : (names path).getLast? = some n) (hn : n ≠ ".") :
    Tidy path := by
  obtain ⟨ns, hns⟩ := List.getLast?_eq_some_iff.1 h
  have hsolid : solidNames [n] = [n] := by simp [solidNames, hn]
  rw [Tidy, approach, solid, hns, List.dropLast_concat, solidNames_append, hsolid,
    List.dropLast_concat]

/-- The path above a path leads to where it is to be found. -/
theorem approach_of_parent {path a : String} (h : Tidy path) (ha : parent? path = some a) :
    approach path = solid a ∧ isAbsolute path = isAbsolute a := by
  obtain ⟨l, hl⟩ := List.head?_eq_some_iff.1 ha
  have hladder := ladder_ancestors h
  rw [ancestors, hl] at hladder
  exact ⟨hladder.1, hladder.2.1⟩

/-- A path without a path above it is to be found where it starts. -/
theorem approach_of_no_parent {path : String} (h : Tidy path) (ha : parent? path = none) :
    path = "" ∨ approach path = [] := by
  have hladder := ladder_ancestors h
  rw [ancestors, List.head?_eq_none_iff.1 ha] at hladder
  exact hladder

end Pagewright.Path
