/-
  What accepted pages are emitted under.

  * `Page.EmittedNames`: the class of a page is an identifier that nothing else
    takes, its element and its route are in kebab case;
  * `outputPaths`: the paths of all files of a run without its theme, three for
    each page and three of the barrel;
  * `OutputPlaces`: these are at different places below the output, and the
    directory of a page is right in it;
  * `Page.outputs_of_validate`: all this holds as soon as the pages are accepted.
-/
import Pagewright.Proofs.Page.Files
import Pagewright.Proofs.Page.Names

namespace Pagewright

/-! ## Identifiers -/

namespace Script

/-- The words of the language that name nothing. -/
def reservedWords : List String :=
  ["any", "as", "async", "await", "bigint", "boolean", "break", "case", "catch", "class", "const",
    "continue", "debugger", "default", "delete", "do", "else", "enum", "export", "extends",
    "false", "finally", "for", "function", "if", "implements", "import", "in", "instanceof",
    "interface", "let", "never", "new", "null", "number", "object", "package", "private",
    "protected", "public", "return", "static", "string", "super", "switch", "symbol", "this",
    "throw", "true", "try", "type", "typeof", "undefined", "unknown", "var", "void", "while",
    "with", "yield"]

/-- A text that can name a class. -/
structure IsIdentifier (s : String) : Prop where
  chars : ∀ c ∈ s.toList, isIdentifierChar c
  start : ∃ c ∈ s.toList.head?, c.isDigit = false
  not_reserved : s ∉ reservedWords

end Script

theorem IsUpper.not_isDigit {c : Char} (h : IsUpper c) : c.isDigit = false :=
  IsNameChar.of_ascii (P := fun c => IsUpper c → c.isDigit = false) (by decide)
    (Or.inl (Or.inl h)) h

/-- No reserved word begins with an upper-case letter. -/
theorem not_isUpper_of_mem_reservedWords {s : String} (h : s ∈ Script.reservedWords) {c : Char}
    (hc : s.toList.head? = some c) : ¬IsUpper c := by
  have hwords : Script.reservedWords.all fun w => w.toList.head?.all fun c => ¬IsUpper c := by
    decide
  have hword := List.all_eq_true.1 hwords s h
  rw [hc] at hword
  exact of_decide_eq_true hword

theorem IsPascalName.isIdentifier {s : String} (h : IsPascalName s) : Script.IsIdentifier s := by
  have hchars := h.isIdentifierChar
  obtain ⟨c, cs, hs, hc, -⟩ := h
  have hhead : s.toList.head? = some c := by
    rw [hs]
    rfl
  exact
    { chars := hchars
      start := ⟨c, hhead, hc.not_isDigit⟩
      not_reserved := fun hs => not_isUpper_of_mem_reservedWords hs hhead hc }

/-! ## Names of a page -/

namespace Page

/-- What a page is emitted under is well formed, and its class is none that is imported. -/
structure EmittedNames (page : String) : Prop where
  className : ∃ stem, IsPascalName stem ∧ className page = stem ++ "Component"
  isIdentifier : Script.IsIdentifier (Page.className page)
  not_imported : Page.className page ≠ "Component"
  selector : ∃ stem, IsKebabName stem ∧ selector page = "app-" ++ stem
  route : IsKebabName (route page)

end Page

theorem IsPageName.emittedNames {page : String} (h : IsPageName page) :
    Page.EmittedNames page where
  className := ⟨Text.pascal page, h.pascal, rfl⟩
  isIdentifier := h.className.isIdentifier
  not_imported := by
    intro heq
    have hlength : (Text.pascal page ++ "Component").length = "Component".length :=
      congrArg String.length heq
    obtain ⟨c, cs, hstem, -⟩ := h.pascal
    rw [String.length_append, ← String.length_toList, hstem, List.length_cons] at hlength
    omega
  selector := ⟨Text.kebab page, h.kebab, rfl⟩
  route := h.route

/-! ## Paths -/

/-- The directory of a page. -/
def Page.directory (output : String) (p : Page) : String := Path.join output p.name

/-- The paths of the files of a page. -/
def Page.paths (output : String) (p : Page) : List String :=
  (fileNames p.name).map (Path.join (p.directory output))

/-- The paths of the files of the barrel. -/
def Barrel.paths (output module : String) (ps : List Page) : List String :=
  (files module ps).map fun f => Path.join output f.1

/-- The paths of all files that pages and their barrel are emitted to. -/
def outputPaths (output module : String) (ps : List Page) : List String :=
  ps.flatMap (Page.paths output) ++ Barrel.paths output module ps

theorem length_outputPaths (output module : String) (ps : List Page) :
    (outputPaths output module ps).length = 3 * ps.length + 3 := by
  have hpages : (ps.flatMap (Page.paths output)).length = 3 * ps.length := by
    induction ps with
    | nil => rfl
    | cons p ps ih =>
      rw [List.flatMap_cons, List.length_append, ih, List.length_cons]
      have hpage : (Page.paths output p).length = 3 := rfl
      omega
  rw [outputPaths, List.length_append, hpages]
  rfl

/-- The paths of a run are at different places below the output. -/
structure OutputPlaces (d : Disk) (output module : String) (ps : List Page) : Prop where
  directories : ∀ p ∈ ps, d.place (p.directory output) = d.place output ++ [p.name]
  length_paths : (outputPaths output module ps).length = 3 * ps.length + 3
  nodup : ((outputPaths output module ps).map d.place).Nodup
  inside : ∀ path ∈ outputPaths output module ps,
    ∃ below ≠ [], d.place path = d.place output ++ below

theorem Page.map_place_paths {p : Page} (h : IsPageName p.name) (d : Disk) (output : String) :
    (p.paths output).map d.place =
      (fileNames p.name).map fun name => d.place output ++ [p.name, name] := by
  rw [paths, List.map_map]
  exact List.map_congr_left fun name hname => place_file h hname d output

/-- The files of pages with different names are at different places. -/
theorem Page.nodup_places {ps : List Page} (h : WellFormed ps) (d : Disk) (output : String) :
    ((ps.flatMap (paths output)).map d.place).Nodup := by
  rw [List.map_flatMap, List.nodup_flatMap]
  constructor
  · intro p hp
    rw [map_place_paths (h.names p hp)]
    refine (nodup_fileNames p.name).map fun m n hmn => ?_
    simpa using hmn
  · have hnames := List.pairwise_map.1 h.distinct_names
    refine hnames.imp_of_mem fun {p q} hp hq hne => ?_
    show List.Disjoint ((p.paths output).map d.place) ((q.paths output).map d.place)
    rw [map_place_paths (h.names p hp), map_place_paths (h.names q hq)]
    intro l hlp hlq
    obtain ⟨m, -, rfl⟩ := List.mem_map.1 hlp
    obtain ⟨n, -, heq⟩ := List.mem_map.1 hlq
    have hpq : q.name = p.name := by simpa using (List.cons.inj (List.append_cancel_left heq)).1
    exact hne hpq.symm

/-- A text that is longer than two characters and holds no slash is a name. -/
theorem Path.isName_of_length {s : String} (hlong : 2 < s.length) (hslash : '/' ∉ s.toList) :
    Path.IsName s := by
  have hne : ∀ t : String, t.length ≤ 2 → s ≠ t := by
    rintro t ht rfl
    omega
  exact ⟨hslash, hne "" (by decide), hne "." (by decide), hne ".." (by decide)⟩

theorem Barrel.isName_of_mem_files {module : String} (h : '/' ∉ module.toList) {ps : List Page}
    {f : String × String} (hf : f ∈ files module ps) : Path.IsName f.1 := by
  simp only [files, List.mem_cons, List.not_mem_nil, or_false] at hf
  rcases hf with rfl | rfl | rfl
  · have hending : '/' ∉ ".module.ts".toList := by decide
    refine Path.isName_of_length ?_ ?_
    · rw [moduleFile, String.length_append]
      exact Nat.lt_add_left _ (by decide)
    · rw [moduleFile, String.toList_append, List.mem_append, not_or]
      exact ⟨h, hending⟩
  · exact Path.isName_of_length (s := publicApiFile) (by decide) (by decide)
  · exact Path.isName_of_length (s := routesFile) (by decide) (by decide)

theorem Page.outputPlaces {ps : List Page} (h : WellFormed ps) (d : Disk) (output : String)
    {module : String} (hmodule : '/' ∉ module.toList) : OutputPlaces d output module ps where
  directories p hp := d.place_join output (h.names p hp).isName
  length_paths := length_outputPaths output module ps
  nodup := by
    rw [outputPaths, List.map_append, List.nodup_append]
    refine ⟨nodup_places h d output, ?_, ?_⟩
    · rw [Barrel.paths, List.map_map]
      exact Barrel.nodup_places d output module ps
    · intro l hl l' hl'
      obtain ⟨path, hpath, rfl⟩ := List.mem_map.1 hl
      obtain ⟨p, hp, hpath⟩ := List.mem_flatMap.1 hpath
      obtain ⟨name, hname, rfl⟩ := List.mem_map.1 hpath
      obtain ⟨path', hpath', rfl⟩ := List.mem_map.1 hl'
      obtain ⟨f, hf, rfl⟩ := List.mem_map.1 hpath'
      exact (Barrel.place_ne_of_mem_files d hf hname).symm
  inside path hpath := by
    rcases List.mem_append.1 hpath with hpath | hpath
    · obtain ⟨p, hp, hpath⟩ := List.mem_flatMap.1 hpath
      obtain ⟨name, hname, rfl⟩ := List.mem_map.1 hpath
      exact ⟨[p.name, name], List.cons_ne_nil _ _, place_file (h.names p hp) hname d output⟩
    · obtain ⟨f, hf, rfl⟩ := List.mem_map.1 hpath
      exact ⟨[f.1], List.cons_ne_nil _ _,
        d.place_join output (Barrel.isName_of_mem_files hmodule hf)⟩

/-- **Accepted pages are emitted side by side.**  Each has well-formed names, no two share a class
    or an element, and wherever the output is, all files are at different places below it. -/
theorem Page.outputs_of_validate {ps : List Page} (hvalid : validate ps = []) :
    (∀ p ∈ ps, EmittedNames p.name) ∧ (ps.map fun p => className p.name).Nodup ∧
      (ps.map fun p => selector p.name).Nodup ∧
      ∀ (d : Disk) (output module : String), '/' ∉ module.toList →
        OutputPlaces d output module ps := by
  have h := (validate_eq_nil_iff ps).1 hvalid
  refine ⟨fun p hp => (h.names p hp).emittedNames, h.distinct_classNames, h.distinct_selectors, ?_⟩
  intro d output module hmodule
  exact outputPlaces h d output hmodule

/-- Pages whose names end in hyphens, hold several of them, or end in what routes leave out. -/
def hyphenatedPages : List Page :=
  [⟨"sign-Up--", []⟩, ⟨"x_2--y", []⟩, ⟨"a-page", []⟩, ⟨"page", []⟩]

theorem Page.outputs_of_validate_hyphenatedPages :
    validate hyphenatedPages = [] ∧ (∀ p ∈ hyphenatedPages, EmittedNames p.name) ∧
      OutputPlaces {} "" "" hyphenatedPages := by
  have hvalid : validate hyphenatedPages = [] := by decide +kernel
  obtain ⟨hnames, -, -, hplaces⟩ := outputs_of_validate hvalid
  exact ⟨hvalid, hnames, hplaces {} "" "" (by decide)⟩

end Pagewright
