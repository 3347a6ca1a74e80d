/-
  The references between the files of a run.

  * `Refers` says which path a specifier stands for;
  * `refers_pageFile`, `refers_moduleFile`: the specifiers of the barrel stand for
    files of the run;
  * `references_resolve`: all references of a run lead to what it writes, and its
    lists name every page once and in order.
-/
import Pagewright.Proofs.Barrel.Sources
import Pagewright.Proofs.Page.ClassHead
import Pagewright.Proofs.Run.SideBySide

namespace Pagewright

open Script

/-! ## Specifiers -/

/-- The file that a statement imports from or exports again. -/
def Script.Statement.file? : Statement → Option String
  | importNames _ file => some file
  | exportAll file => some file
  | _ => none

/-- Whether a specifier is a path; otherwise it names a package. -/
def isRelative (file : String) : Bool := file.toList.head? == some '.'

/-- The path that a specifier stands for in the sources of a directory. -/
def Refers (directory file path : String) : Prop :=
  ∃ name, file = "./" ++ name ∧ path = Path.join directory (name ++ ".ts")

namespace Path

theorem not_endsInSlash_append (s : String) {b : String} (hb : IsName b) :
    endsInSlash (s ++ b) = false := by
  have hne : b.toList ≠ [] := mt String.toList_eq_nil_iff.1 hb.ne_empty
  rw [endsInSlash, String.toList_append, List.getLast?_append_of_ne_nil _ hne, beq_eq_false_iff_ne]
  intro hlast
  exact hb.no_slash (List.mem_of_getLast? hlast)

/-- A path behind a name behind a path. -/
theorem join_join (a : String) {b c : String} (hb : IsName b) (hc : isAbsolute c = false) :
    join (join a b) c = join a (b ++ "/" ++ c) := by
  have hjoin : ∀ s, join (s ++ b) c = s ++ (b ++ "/" ++ c) := by
    intro s
    have hne : s ++ b ≠ "" := fun hempty => hb.ne_empty (String.append_eq_empty_iff.1 hempty).2
    rw [join, hc, not_endsInSlash_append s hb]
    simp [hne, String.append_assoc]
  have hname : isAbsolute b = false := not_isAbsolute_of_not_mem hb.no_slash
  have hrest : isAbsolute (b ++ "/" ++ c) = false := by
    obtain ⟨d, cs, hcs⟩ := List.exists_cons_of_ne_nil (mt String.toList_eq_nil_iff.1 hb.ne_empty)
    simpa [isAbsolute, hcs] using hname
  have hwhole : join a (b ++ "/" ++ c) =
      if a = "" || endsInSlash a then a ++ (b ++ "/" ++ c) else a ++ "/" ++ (b ++ "/" ++ c) := by
    rw [join, hrest]
    rfl
  have hfirst : join a b = if a = "" || endsInSlash a then a ++ b else a ++ "/" ++ b := by
    rw [join, hname]
    rfl
  rw [hwhole, hfirst]
  split_ifs <;> exact hjoin _

end Path

namespace Barrel

variable {output module page : String} {options : Options} {ps : List Page} {p : Page}

/-- The specifier of a page stands for the file of its class. -/
theorem refers_pageFile (output : String) (h : IsPageName page) :
    Refers output (pageFile page)
      (Path.join (Path.join output page) (Page.classFile page)) := by
  have hclass : Path.IsName (Page.classFile page) :=
    Page.isName_of_mem_fileNames h (by simp [Page.fileNames])
  refine ⟨page ++ "/" ++ Page.classStem page, ?_, ?_⟩
  · simp only [pageFile, String.append_assoc]
  · rw [Path.join_join output h.isName (Path.not_isAbsolute_of_not_mem hclass.no_slash),
      Page.classFile, String.append_assoc]
    simp only [String.append_assoc]

/-- The specifier of the module stands for its file. -/
theorem refers_moduleFile (output module : String) :
    Refers output ("./" ++ module ++ ".module") (Path.join output (moduleFile module)) := by
  refine ⟨module ++ ".module", String.append_assoc, ?_⟩
  rw [moduleFile, String.append_assoc]
  rfl

/-- Pages with page names have different specifiers, and none has that of a module. -/
theorem pageFile_injective {a b : String} (h : pageFile a = pageFile b) : a = b := by
  have hlist := congrArg String.toList h
  have hlength := congrArg String.length h
  simp only [pageFile, Page.classStem, String.length_append] at hlength
  simp only [pageFile, Page.classStem, String.toList_append, List.append_assoc] at hlist
  have htail := List.append_cancel_left hlist
  refine String.toList_inj.1 (List.append_inj_left htail ?_)
  simp only [String.length_toList]
  omega

theorem pageFile_ne_module (page module : String) :
    pageFile page ≠ "./" ++ module ++ ".module" := by
  intro h
  have hpage : ".component".toList.getLast? = some 't' := rfl
  have hmodule : ".module".toList.getLast? = some 'e' := rfl
  have hlast := congrArg (fun s => s.toList.getLast?) h
  simp only [pageFile, Page.classStem, String.toList_append, List.getLast?_append, hpage, hmodule,
    Option.some_or] at hlast
  exact absurd hlast (by decide)

/-! ## What is read -/

/-- The names that statements import, with where they import them from, but for
    packages. -/
def localImports (ss : List Statement) : List (List String × String) :=
  ss.filterMap fun
    | .importNames names file => if isRelative file then some (names, file) else none
    | _ => none

/-- The classes that a module lists under a name. -/
def classesOf (field : String) (ss : List Statement) : Option (List String) := do
  let fs ← ss.findSome? (Statement.fieldsOf? "NgModule")
  match ← fs.lookup field with
  | .group .square ts => words (← items ts)
  | _ => none

/-- The files that statements export again. -/
def exportedFiles (ss : List Statement) : List String :=
  ss.filterMap fun
    | .exportAll file => some file
    | _ => none

theorem isRelative_pageFile (page : String) : isRelative (pageFile page) := by
  simp [isRelative, pageFile]

theorem localImports_append (ss ts : List Statement) :
    localImports (ss ++ ts) = localImports ss ++ localImports ts := List.filterMap_append

theorem localImports_pages (ps : List Page) :
    localImports (ps.map pageImportStatement) =
      ps.map fun p => ([Page.className p.name], pageFile p.name) := by
  rw [localImports, List.filterMap_map]
  simp [pageImportStatement, isRelative_pageFile, Function.comp_def]

theorem localImports_module (module : String) (ps : List Page) :
    localImports (moduleStatements module ps) =
      ps.map fun p => ([Page.className p.name], pageFile p.name) := by
  rw [moduleStatements, localImports_append, localImports_append, localImports_pages]
  simp [localImports, frameworkImports, moduleDeclaration, isRelative]

theorem localImports_routes (ps : List Page) :
    localImports (routesStatements ps) =
      ps.map fun p => ([Page.className p.name], pageFile p.name) := by
  rw [routesStatements, localImports_append, localImports_append, localImports_pages]
  simp [localImports, isRelative]

theorem exportedFiles_publicApi (module : String) (ps : List Page) :
    exportedFiles (publicApiStatements module ps) =
      ("./" ++ module ++ ".module") :: ps.map fun p => pageFile p.name := by
  simp [exportedFiles, publicApiStatements]

theorem classesOf_module (module : String) (ps : List Page) {field : String}
    (h : field ∈ ["declarations", "exports"]) :
    classesOf field (moduleStatements module ps) =
      some (ps.map fun p => Page.className p.name) := by
  have himports : (frameworkImports ++ ps.map pageImportStatement).findSome?
      (Statement.fieldsOf? "NgModule") = none := by
    simp [frameworkImports, pageImportStatement, Statement.fieldsOf?]
  have hdecorator : (moduleStatements module ps).findSome? (Statement.fieldsOf? "NgModule") =
      some [("imports", .group .square (commas [.word "CommonModule", .word "FormsModule"])),
        ("declarations", classList ps), ("exports", classList ps)] := by
    rw [moduleStatements, List.findSome?_append, himports]
    rfl
  have hwords : words (ps.map fun p => .word (Page.className p.name)) =
      some (ps.map fun p => Page.className p.name) := by
    rw [← words_map (ps.map fun p => Page.className p.name), List.map_map, Function.comp_def]
  rw [classesOf, hdecorator]
  simp only [List.mem_cons, List.not_mem_nil, or_false] at h
  rcases h with rfl | rfl <;> simp [List.lookup_cons, classList, items_commas, hwords]

/-- The specifiers of statements, but for packages. -/
def localFiles (ss : List Statement) : List String :=
  (ss.filterMap Statement.file?).filter isRelative

theorem localFiles_append (ss ts : List Statement) :
    localFiles (ss ++ ts) = localFiles ss ++ localFiles ts := by
  rw [localFiles, List.filterMap_append, List.filter_append, localFiles, localFiles]

theorem localFiles_pages (f : Page → Statement) (h : ∀ p, (f p).file? = some (pageFile p.name))
    (ps : List Page) : localFiles (ps.map f) = ps.map fun p => pageFile p.name := by
  have hfiles : (ps.map f).filterMap Statement.file? = ps.map fun p => pageFile p.name := by
    simp [List.filterMap_map, h]
  rw [localFiles, hfiles, List.filter_eq_self.2]
  exact List.forall_mem_map.2 fun p _ => isRelative_pageFile p.name

theorem localFiles_module (module : String) (ps : List Page) :
    localFiles (moduleStatements module ps) = ps.map fun p => pageFile p.name := by
  rw [moduleStatements, localFiles_append, localFiles_append,
    localFiles_pages pageImportStatement fun _ => rfl]
  simp [localFiles, frameworkImports, moduleDeclaration, Statement.file?, isRelative]

theorem localFiles_routes (ps : List Page) :
    localFiles (routesStatements ps) = ps.map fun p => pageFile p.name := by
  rw [routesStatements, localFiles_append, localFiles_append,
    localFiles_pages pageImportStatement fun _ => rfl]
  simp [localFiles, Statement.file?, isRelative]

theorem localFiles_publicApi (module : String) (ps : List Page) :
    localFiles (publicApiStatements module ps) =
      ("./" ++ module ++ ".module") :: ps.map fun p => pageFile p.name := by
  have hmodule : isRelative ("./" ++ module ++ ".module") := by simp [isRelative]
  rw [publicApiStatements, ← List.singleton_append, localFiles_append,
    localFiles_pages (fun p => .exportAll (pageFile p.name)) fun _ => rfl]
  simp [localFiles, Statement.file?, hmodule]

/-! ## What is referred to -/

/-- A specifier in the sources of the output stands for a text that the run writes. -/
def Finds (output : String) (options : Options) (ps : List Page) (file text : String) : Prop :=
  ∃ path, Refers output file path ∧ (path, text.toUTF8) ∈ (Plan.ofSources output options ps).files

theorem mem_ofSources_of_page (output : String) (options : Options) (hp : p ∈ ps)
    {name text : String} (hf : (name, text) ∈ p.files options.themeImport) :
    (Path.join (Path.join output p.name) name, text.toUTF8) ∈
      (Plan.ofSources output options ps).files :=
  Or.inl ⟨p, hp, (name, text), hf, rfl⟩

theorem mem_ofSources_of_library (output : String) {library : Library}
    (hasked : options.library = some library) {name text : String}
    (hf : (name, text) ∈ files library.moduleName ps) :
    (Path.join output name, text.toUTF8) ∈ (Plan.ofSources output options ps).files :=
  Or.inr (Plan.mem_ofLibraryIfAsked.2 ⟨library, hasked, (name, text), hf, rfl⟩)

theorem finds_pageFile (output : String) (options : Options) (hname : IsPageName p.name)
    (hp : p ∈ ps) :
    Finds output options ps (pageFile p.name) (p.sources options.themeImport).script := by
  have hfile : (Page.classFile p.name, (p.sources options.themeImport).script) ∈
      p.files options.themeImport := .tail _ (.tail _ (.head _))
  exact ⟨_, refers_pageFile output hname, mem_ofSources_of_page output options hp hfile⟩

theorem finds_moduleFile {library : Library} (hasked : options.library = some library) :
    Finds output options ps ("./" ++ library.moduleName ++ ".module")
      (renderModule library.moduleName ps) := by
  have hfile : (moduleFile library.moduleName, renderModule library.moduleName ps) ∈
      files library.moduleName ps := .head _
  exact ⟨_, refers_moduleFile output library.moduleName,
    mem_ofSources_of_library output hasked hfile⟩

/-- The class that the file of a page exports. -/
theorem readClass_script (h : IsPageName p.name) (themeImport : String) :
    readClass (p.sources themeImport).script = some (Page.classHead p.name) := by
  have hscript : (p.sources themeImport).script = Page.renderClass p.name
      (Component.stateFields p.components) (Component.handlers p.components) := by rw [Page.sources]
  rw [hscript, Page.readClass_renderClass h]

theorem mem_files_iff {module : String} {f : String × String} :
    f ∈ files module ps ↔ f = (moduleFile module, renderModule module ps) ∨
      f = (publicApiFile, renderPublicApi module ps) ∨ f = (routesFile, renderRoutes ps) := by
  simp [files]

/-- How the files of a run refer to each other. -/
structure References (output : String) (options : Options) (module : String) (ps : List Page) :
    Prop where
  /-- The specifiers of the barrel stand for files of the run, and the names that are
      imported are the classes that these files export. -/
  resolved : ∀ f ∈ files module ps, ∃ ss, Script.read f.2 = some ss ∧
    (∀ file ∈ localFiles ss, ∃ text, Finds output options ps file text) ∧
    ∀ i ∈ localImports ss, ∃ text head,
      Finds output options ps i.2 text ∧ readClass text = some head ∧ i.1 = [head.name]
  /-- A class names the template and the stylesheet that are written next to it. -/
  heads : ∀ p ∈ ps, ∃ html scss ts script,
    p.files options.themeImport =
      [(html, Component.renderPage p.components),
        (scss, Component.renderStyles options.themeImport p.components), (ts, script)] ∧
    (∀ f ∈ p.files options.themeImport, (Path.join (Path.join output p.name) f.1, f.2.toUTF8) ∈
      (Plan.ofSources output options ps).files) ∧
    ∃ head, readClass script = some head ∧ head.templateUrl = "./" ++ html ∧
      head.styleUrls = ["./" ++ scss]
  /-- The module imports, declares and exports every class once and in order. -/
  inModule : ∃ ss, Script.read (renderModule module ps) = some ss ∧
    localImports ss = ps.map (fun p => ([Page.className p.name], pageFile p.name)) ∧
    classesOf "declarations" ss = some (ps.map fun p => Page.className p.name) ∧
    classesOf "exports" ss = some (ps.map fun p => Page.className p.name)
  /-- The table of routes imports every class once and in order. -/
  inRoutes : ∃ ss, Script.read (renderRoutes ps) = some ss ∧
    localImports ss = ps.map (fun p => ([Page.className p.name], pageFile p.name))
  /-- The public interface exports the module and then every file once and in order. -/
  inPublicApi : ∃ ss, Script.read (renderPublicApi module ps) = some ss ∧
    exportedFiles ss = ("./" ++ module ++ ".module") :: ps.map (fun p => pageFile p.name)
  classes_nodup : (ps.map fun p => Page.className p.name).Nodup
  files_nodup : (("./" ++ module ++ ".module") :: ps.map fun p => pageFile p.name).Nodup

/-- **All references between the files of a run resolve**, and no page is left out or
    named twice. -/
theorem references_resolve (output : String) {options : Options} {ps : List Page}
    (hvalid : Page.validate ps = []) {library : Library} (hasked : options.library = some library)
    (hmodule : IsPageName library.moduleName) :
    References output options library.moduleName ps := by
  have h := (Page.validate_eq_nil_iff ps).1 hvalid
  have hmoduleRead := read_renderModule hmodule h.names
  have hapiRead := read_renderPublicApi hmodule h.names
  have hroutesRead := read_renderRoutes h.names
  have hpages : ∀ file ∈ ps.map fun p => pageFile p.name, ∃ text,
      Finds output options ps file text :=
    List.forall_mem_map.2 fun p hp => ⟨_, finds_pageFile output options (h.names p hp) hp⟩
  have hclasses : ∀ i ∈ ps.map fun p => ([Page.className p.name], pageFile p.name),
      ∃ text head, Finds output options ps i.2 text ∧ readClass text = some head ∧
        i.1 = [head.name] :=
    List.forall_mem_map.2 fun p hp => ⟨_, _, finds_pageFile output options (h.names p hp) hp,
      readClass_script (h.names p hp) options.themeImport, rfl⟩
  refine
    { resolved := ?_
      heads := ?_
      inModule := ⟨_, hmoduleRead, localImports_module _ ps, classesOf_module _ ps (by simp),
        classesOf_module _ ps (by simp)⟩
      inRoutes := ⟨_, hroutesRead, localImports_routes ps⟩
      inPublicApi := ⟨_, hapiRead, exportedFiles_publicApi _ ps⟩
      classes_nodup := h.distinct_classNames
      files_nodup := ?_ }
  · intro f hf
    rcases mem_files_iff.1 hf with rfl | rfl | rfl
    · refine ⟨_, hmoduleRead, ?_, ?_⟩
      · rwa [localFiles_module]
      · rwa [localImports_module]
    · refine ⟨_, hapiRead, ?_, ?_⟩
      · rw [localFiles_publicApi]
        exact List.forall_mem_cons.2 ⟨⟨_, finds_moduleFile hasked⟩, hpages⟩
      · simp [localImports, publicApiStatements]
    · refine ⟨_, hroutesRead, ?_, ?_⟩
      · rwa [localFiles_routes]
      · rwa [localImports_routes]
  · intro p hp
    have hfiles : p.files options.themeImport =
        [(Page.templateFile p.name, Component.renderPage p.components),
          (Page.stylesheetFile p.name, Component.renderStyles options.themeImport p.components),
          (Page.classFile p.name, (p.sources options.themeImport).script)] := rfl
    have hread := readClass_script (h.names p hp) options.themeImport
    exact ⟨_, _, _, _, hfiles, fun f hf => mem_ofSources_of_page output options hp hf, _, hread,
      rfl, rfl⟩
  · refine List.nodup_cons.2 ⟨?_, ?_⟩
    · rintro hmem
      obtain ⟨p, -, heq⟩ := List.mem_map.1 hmem
      exact pageFile_ne_module _ _ heq
    · have hnames := h.distinct_names.map (f := pageFile) fun _ _ => pageFile_injective
      rwa [List.map_map] at hnames

/-- Two pages, the first of which has an action that no source can be read behind. -/
def unevenPages : List Page :=
  [⟨"home", [.node { kind := .button, id := "b", action := some "it's \x7b" } []]⟩,
    ⟨"userList", []⟩]

/-- The references of a run are found even if the members of a class cannot be read. -/
theorem references_resolve_unevenPages :
    Page.validate unevenPages = [] ∧
      ({ library := some {} } : Options).library = some ⟨"dynamic-components"⟩ ∧
      IsPageName "dynamic-components" ∧
      References "out" { library := some {} } "dynamic-components" unevenPages := by
  have hvalid : Page.validate unevenPages = [] := by decide +kernel
  have hmodule : IsPageName "dynamic-components" := (nameFault?_eq_none_iff _).1 (by decide)
  exact ⟨hvalid, rfl, hmodule, references_resolve "out" hvalid rfl hmodule⟩

end Barrel

end Pagewright
