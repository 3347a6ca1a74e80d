/-
  The names that the module of a barrel binds.

  * `Statement.bound`: the names that a statement binds at the top of its source;
  * `bound_moduleStatements`: the module binds what it imports from the framework,
    the classes of the pages, and its own class, in this order;
  * classes of pages end differently from all others (`className_ne_module`), so
    that only the class of the module can be bound twice;
  * `renderModule_scope`: it is exactly if the module is called after one of the
    imports.  `renderModule_rebinds` is such a module.
-/
import Pagewright.Proofs.Barrel.Sources

namespace Pagewright

open Script

/-- The names that a statement binds at the top of its source.  What is only exported
    again is not bound, and a decorator belongs to the class behind it. -/
def Script.Statement.bound : Statement → List String
  | importNames names _ => names
  | exportAll _ => []
  | decorator _ _ => []
  | exportClass name _ => [name]
  | exportList name _ _ => [name]

namespace Barrel

variable {module : String} {ps : List Page}

/-- The names of the framework without their ending. -/
def frameworkStems : List String := ["Ng", "Common", "Forms"]

/-- The names that the module binds. -/
def moduleScope (module : String) (ps : List Page) : List String :=
  frameworkStems.map (· ++ "Module") ++ (ps.map fun p => Page.className p.name) ++
    [moduleClass module]

theorem bound_moduleStatements (module : String) (ps : List Page) :
    (moduleStatements module ps).flatMap Statement.bound = moduleScope module ps := by
  have hpages : (ps.map pageImportStatement).flatMap Statement.bound =
      ps.map fun p => Page.className p.name := by
    rw [List.flatMap_map]
    exact List.map_eq_flatMap.symm
  rw [moduleStatements, List.flatMap_append, List.flatMap_append, hpages]
  rfl

/-- No class of a page has the name of a module. -/
theorem className_ne_module (page stem : String) : Page.className page ≠ stem ++ "Module" := by
  intro h
  have hclass : "Component".toList.getLast? = some 't' := rfl
  have hmodule : "Module".toList.getLast? = some 'e' := rfl
  have hlast := congrArg (fun s => s.toList.getLast?) h
  simp only [Page.className, String.toList_append, List.getLast?_append, hclass, hmodule,
    Option.some_or] at hlast
  exact absurd hlast (by decide)

theorem module_injective : Function.Injective (fun stem : String => stem ++ "Module") :=
  fun _ _ => (String.append_left_inj "Module").1

/-- Without its own class, a module binds every name once. -/
theorem nodup_imports (h : (ps.map fun p => Page.className p.name).Nodup) :
    (frameworkStems.map (· ++ "Module") ++ ps.map fun p => Page.className p.name).Nodup := by
  refine List.nodup_append.2 ⟨(by decide : frameworkStems.Nodup).map module_injective, h, ?_⟩
  intro m hm c hc heq
  obtain ⟨stem, -, rfl⟩ := List.mem_map.1 hm
  obtain ⟨p, -, rfl⟩ := List.mem_map.1 hc
  exact className_ne_module p.name stem heq.symm

/-- The class of a module is imported exactly if it is called after an import from the
    framework. -/
theorem moduleClass_mem_imports_iff :
    moduleClass module ∈ (frameworkStems.map (· ++ "Module") ++
        ps.map fun p => Page.className p.name) ↔ Text.pascal module ∈ frameworkStems := by
  rw [List.mem_append, moduleClass, List.mem_map_of_injective module_injective, or_iff_left]
  intro hc
  obtain ⟨p, -, heq⟩ := List.mem_map.1 hc
  exact className_ne_module p.name _ heq

/-- **The module binds the framework, the pages and itself, and nothing twice unless it
    is called `Ng`, `Common` or `Forms` in Pascal case.** -/
theorem renderModule_scope (hvalid : Page.validate ps = []) (hmodule : IsPageName module) :
    ∃ ss, Script.read (renderModule module ps) = some ss ∧
      ss.flatMap Statement.bound =
        ["NgModule", "CommonModule", "FormsModule"] ++ (ps.map fun p => Page.className p.name) ++
          [moduleClass module] ∧
      (["NgModule", "CommonModule", "FormsModule"] ++
        ps.map fun p => Page.className p.name).Nodup ∧
      ((ss.flatMap Statement.bound).Nodup ↔ Text.pascal module ∉ ["Ng", "Common", "Forms"]) := by
  have h := (Page.validate_eq_nil_iff ps).1 hvalid
  have himports := nodup_imports h.distinct_classNames
  refine ⟨moduleStatements module ps, read_renderModule hmodule h.names,
    bound_moduleStatements module ps, himports, ?_⟩
  have hown : (moduleScope module ps).Nodup ↔ Text.pascal module ∉ frameworkStems := by
    rw [moduleScope, ← List.concat_eq_append, List.nodup_concat, moduleClass_mem_imports_iff,
      and_iff_left himports]
  rw [bound_moduleStatements, hown]
  rfl

/-- Two pages, one of which is called after an import. -/
def formsPages : List Page := [⟨"forms", []⟩, ⟨"common-forms", []⟩]

/-- Pages may be called after an import, and so may a module that is one of several
    words. -/
theorem renderModule_scope_formsPages :
    Page.validate formsPages = [] ∧ IsPageName "common-forms" ∧
      ∃ ss, Script.read (renderModule "common-forms" formsPages) = some ss ∧
        ss.flatMap Statement.bound =
          ["NgModule", "CommonModule", "FormsModule", "FormsComponent", "CommonFormsComponent",
            "CommonFormsModule"] ∧
        (ss.flatMap Statement.bound).Nodup := by
  have hvalid : Page.validate formsPages = [] := by decide +kernel
  have hmodule : IsPageName "common-forms" := (nameFault?_eq_none_iff _).1 (by decide)
  obtain ⟨ss, hread, hbound, -, hnodup⟩ := renderModule_scope hvalid hmodule
  exact ⟨hvalid, hmodule, ss, hread, hbound.trans (by decide +kernel),
    hnodup.2 (by decide +kernel)⟩

/-- **A module can bind a name twice**: one that is called `common` imports
    `CommonModule` and declares a class of the same name. -/
theorem renderModule_rebinds :
    Page.validate formsPages = [] ∧ IsPageName "common" ∧
      ∃ ss, Script.read (renderModule "common" formsPages) = some ss ∧
        (ss.flatMap Statement.bound).count "CommonModule" = 2 ∧
        ¬(ss.flatMap Statement.bound).Nodup := by
  have hvalid : Page.validate formsPages = [] := by decide +kernel
  have hmodule : IsPageName "common" := (nameFault?_eq_none_iff _).1 (by decide)
  have hread := read_renderModule hmodule ((Page.validate_eq_nil_iff _).1 hvalid).names
  refine ⟨hvalid, hmodule, _, hread, ?_⟩
  rw [bound_moduleStatements]
  decide +kernel

end Barrel

end Pagewright
