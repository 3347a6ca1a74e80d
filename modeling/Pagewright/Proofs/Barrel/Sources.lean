/-
  What the sources of the barrel say.

  * `read_renderModule`, `read_renderPublicApi`, `read_renderRoutes`: for pages that
    have page names, the three sources are read as the statements they are written
    for.
-/
import Pagewright.Barrel
import Pagewright.Proofs.Page.Names
import Pagewright.Proofs.Text.Statements

namespace Pagewright

open Script

namespace Barrel

theorem isPlain_pageFile {page : String} (h : IsPageName page) : IsPlain (pageFile page) := by
  have hdirectory : IsPlain ("./" ++ page ++ "/") :=
    ((by decide : IsPlain "./").append h.isPlain).append (by decide)
  exact hdirectory.append (h.isPlain.append (by decide))

/-! ## Lines -/

theorem reads_importLine {name file : String} (hname : IsWord name) (hfile : IsPlain file) :
    Reads (importLine name file) (statementTokens [.importNames [name] file]) := by
  have hline : importLine name file =
      "import \x7b " ++ (name ++ (" \x7d from " ++ ("'" ++ file ++ "'"))) ++ ";" := by
    have hfrom : " \x7d from '" = " \x7d from " ++ "'" := rfl
    have hclose : "';" = "'" ++ ";" := rfl
    unfold importLine
    rw [hfrom, hclose]
    simp only [String.append_assoc, -String.reduceAppend]
  have hopen : Reads "import \x7b " [.word "import", .opens .curly] := rfl
  have hfrom : Reads " \x7d from " [.closes .curly, .word "from"] := rfl
  have hclose : Reads ";" [.mark ';'] := rfl
  have hapart : IsApart " \x7d from " := ⟨' ', _, rfl, by decide⟩
  have hrest := hname.reads _ _ (hapart.append _) (hfrom.append (.quoted hfile))
  rw [hline]
  exact (hopen.append hrest).append hclose

theorem reads_exportLine {file : String} (hfile : IsPlain file) :
    Reads (exportLine file) (statementTokens [.exportAll file]) := by
  have hline : exportLine file = "export * from " ++ ("'" ++ file ++ "'") ++ ";" := by
    have hfrom : "export * from '" = "export * from " ++ "'" := rfl
    have hclose : "';" = "'" ++ ";" := rfl
    unfold exportLine
    rw [hfrom, hclose]
    simp only [String.append_assoc, -String.reduceAppend]
  have hopen : Reads "export * from " [.word "export", .mark '*', .word "from"] := rfl
  have hclose : Reads ";" [.mark ';'] := rfl
  rw [hline]
  exact (hopen.append (.quoted hfile)).append hclose

/-! ## Module -/

variable {module : String} {ps : List Page}

/-- The import of the class of a page. -/
def pageImportStatement (p : Page) : Statement :=
  .importNames [Page.className p.name] (pageFile p.name)

/-- The classes of pages, as a list. -/
def classList (ps : List Page) : Tree :=
  .group .square (commas (ps.map fun p => .word (Page.className p.name)))

/-- The imports of the module from the framework. -/
def frameworkImports : List Statement :=
  [.importNames ["NgModule"] "@angular/core", .importNames ["CommonModule"] "@angular/common",
    .importNames ["FormsModule"] "@angular/forms"]

/-- The class of the module and what is said of it. -/
def moduleDeclaration (module : String) (ps : List Page) : List Statement :=
  [.decorator "NgModule"
    [("imports", .group .square (commas [.word "CommonModule", .word "FormsModule"])),
      ("declarations", classList ps), ("exports", classList ps)],
    .exportClass (moduleClass module) []]

/-- What the module says. -/
def moduleStatements (module : String) (ps : List Page) : List Statement :=
  frameworkImports ++ ps.map pageImportStatement ++ moduleDeclaration module ps

theorem reads_frameworkImports :
    Reads (String.join ([importLine "NgModule" "@angular/core",
        importLine "CommonModule" "@angular/common",
        importLine "FormsModule" "@angular/forms"].map (· ++ "\n")))
      (statementTokens frameworkImports) := by
  have himport : ∀ {name file}, IsWord name ∧ IsPlain file →
      ReadsApart (importLine name file) (statementTokens [.importNames [name] file]) :=
    fun h => (reads_importLine h.1 h.2).apart
  exact Reads.lines <| .cons (himport (by decide)) <| .cons (himport (by decide)) <|
    .cons (himport (by decide)) .nil

theorem reads_pageImports (h : ∀ p ∈ ps, IsPageName p.name) :
    Reads (String.join ((ps.map pageImport).map (· ++ "\n")))
      (statementTokens (ps.map pageImportStatement)) := by
  rw [← flatMap_statementTokens, List.flatMap_def]
  exact Reads.lines <| ReadsApart.map fun p hp =>
    (reads_importLine (h p hp).className.isWord (isPlain_pageFile (h p hp))).apart

theorem reads_classes (h : ∀ p ∈ ps, IsPageName p.name) :
    ReadsApart (",\n".intercalate (ps.map fun p => "    " ++ Page.className p.name))
      (treeTokens (commas (ps.map fun p => .word (Page.className p.name)))) := by
  have hcomma : Reads ",\n" [.mark ','] := rfl
  have hspace : Reads "    " [] := rfl
  rw [treeTokens_commas, List.map_map]
  exact ReadsApart.intercalate hcomma ⟨',', _, rfl, by decide⟩ <| ReadsApart.map fun p hp =>
    hspace.append_apart (h p hp).className.isWord.reads

theorem reads_classLine {name : String} (hname : IsWord name) :
    Reads ("export class " ++ name ++ " \x7b\x7d") (statementTokens [.exportClass name []]) := by
  have hopen : Reads "export class " [.word "export", .word "class"] := rfl
  have hbody : Reads " \x7b\x7d" [.opens .curly, .closes .curly] := rfl
  rw [String.append_assoc]
  exact hopen.append (hname.reads _ _ ⟨' ', _, rfl, by decide⟩ hbody)

theorem reads_moduleDeclaration (hmodule : IsPageName module) (h : ∀ p ∈ ps, IsPageName p.name) :
    Reads
      (String.join
        (["",
          "@NgModule(\x7b",
          "  imports: [CommonModule, FormsModule],",
          "  declarations: [",
          ",\n".intercalate (ps.map fun p => "    " ++ Page.className p.name),
          "  ],",
          "  exports: [",
          ",\n".intercalate (ps.map fun p => "    " ++ Page.className p.name),
          "  ]",
          "\x7d)",
          "export class " ++ moduleClass module ++ " \x7b\x7d"].map (· ++ "\n")))
      (statementTokens (moduleDeclaration module ps)) := by
  have hclasses := reads_classes h
  have hclass := reads_classLine (hmodule.pascal.append (t := "Module") (by decide)).isWord
  have htokens : statementTokens (moduleDeclaration module ps) =
      [[],
        [.mark '@', .word "NgModule", .opens .round, .opens .curly],
        [.word "imports", .mark ':', .opens .square, .word "CommonModule", .mark ',',
          .word "FormsModule", .closes .square, .mark ','],
        [.word "declarations", .mark ':', .opens .square],
        treeTokens (commas (ps.map fun p => .word (Page.className p.name))),
        [.closes .square, .mark ','],
        [.word "exports", .mark ':', .opens .square],
        treeTokens (commas (ps.map fun p => .word (Page.className p.name))),
        [.closes .square],
        [.closes .curly, .closes .round],
        statementTokens [.exportClass (moduleClass module) []]].flatten := by
    simp [moduleDeclaration, statementTokens, Statement.trees, treeTokens, Tree.tokens, fieldTrees,
      classList, commas]
  rw [htokens]
  exact Reads.lines <| .cons (Reads.apart rfl) <| .cons (Reads.apart rfl) <|
    .cons (Reads.apart rfl) <| .cons (Reads.apart rfl) <| .cons hclasses <|
    .cons (Reads.apart rfl) <| .cons (Reads.apart rfl) <| .cons hclasses <|
    .cons (Reads.apart rfl) <| .cons (Reads.apart rfl) <| .cons hclass.apart .nil

/-- **The module is read as what it says.** -/
theorem read_renderModule (hmodule : IsPageName module) (h : ∀ p ∈ ps, IsPageName p.name) :
    read (renderModule module ps) = some (moduleStatements module ps) := by
  refine read_eq_some ?_
  rw [renderModule, moduleStatements, statementTokens_append, statementTokens_append,
    List.map_append, List.map_append, String.join_append, String.join_append]
  exact (reads_frameworkImports.append (reads_pageImports h)).append
    (reads_moduleDeclaration hmodule h)

/-! ## Public interface -/

/-- What the public interface says. -/
def publicApiStatements (module : String) (ps : List Page) : List Statement :=
  .exportAll ("./" ++ module ++ ".module") :: ps.map fun p => .exportAll (pageFile p.name)

/-- **The public interface is read as what it says.** -/
theorem read_renderPublicApi (hmodule : IsPageName module) (h : ∀ p ∈ ps, IsPageName p.name) :
    read (renderPublicApi module ps) = some (publicApiStatements module ps) := by
  have hfile : IsPlain ("./" ++ module ++ ".module") :=
    ((by decide : IsPlain "./").append hmodule.isPlain).append (by decide)
  have htokens : statementTokens (publicApiStatements module ps) =
      (statementTokens [.exportAll ("./" ++ module ++ ".module")] ::
        ps.map fun p => statementTokens [.exportAll (pageFile p.name)]).flatten := by
    rw [List.flatten_cons, ← List.flatMap_def, flatMap_statementTokens, ← statementTokens_append]
    rfl
  refine read_eq_some ?_
  rw [htokens]
  exact Reads.lines <| .cons (reads_exportLine hfile).apart <| ReadsApart.map fun p hp =>
    (reads_exportLine (isPlain_pageFile (h p hp))).apart

/-! ## Routes -/

/-- The entry of a page, as an object. -/
def entryTree (p : Page) : Tree :=
  .group .curly (fieldTrees
    [("path", .text (Page.route p.name)), ("component", .word (Page.className p.name))])

/-- The entry that leads the empty path to a page, as an object. -/
def redirectTree (p : Page) : Tree :=
  .group .curly (fieldTrees
    [("path", .text ""), ("redirectTo", .text (Page.route p.name)), ("pathMatch", .text "full")])

/-- The table of routes, as objects. -/
def routeTrees (ps : List Page) : List Tree :=
  ps.map entryTree ++ (ps.head?.map redirectTree).toList

/-- What the table of routes says. -/
def routesStatements (ps : List Page) : List Statement :=
  [.importNames ["Routes"] "@angular/router"] ++ ps.map pageImportStatement ++
    [.exportList "routes" "Routes" (routeTrees ps)]

theorem reads_routeEntry {p : Page} (h : IsPageName p.name) :
    Reads (routeEntry p) (entryTree p).tokens := by
  have hopen : Reads "  \x7b path: " [.opens .curly, .word "path", .mark ':'] := rfl
  have hcomponent : Reads ", component: " [.mark ',', .word "component", .mark ':'] := rfl
  have hclose : Reads " \x7d" [.closes .curly] := rfl
  have hclass := h.className.isWord.reads _ _ ⟨' ', _, rfl, by decide⟩ hclose
  have hentry := ((hopen.append (.literal h.route.return_not_mem)).append hcomponent).append hclass
  rwa [← String.append_assoc] at hentry

theorem reads_redirectEntry {p : Page} (h : IsPageName p.name) :
    Reads (redirectEntry p) (redirectTree p).tokens := by
  have hopen : Reads "  \x7b path: '', redirectTo: "
      [.opens .curly, .word "path", .mark ':', .text "", .mark ',', .word "redirectTo",
        .mark ':'] := rfl
  have hclose : Reads ", pathMatch: 'full' \x7d"
      [.mark ',', .word "pathMatch", .mark ':', .text "full", .closes .curly] := rfl
  exact (hopen.append (.literal h.route.return_not_mem)).append hclose

theorem reads_routeEntries (h : ∀ p ∈ ps, IsPageName p.name) :
    ReadsApart (",\n".intercalate (routeEntries ps))
      (treeTokens (commas (routeTrees ps))) := by
  have hcomma : Reads ",\n" [.mark ','] := rfl
  have hlast : List.Forall₂ ReadsApart (ps.head?.map redirectEntry).toList
      ((ps.head?.map redirectTree).toList.map Tree.tokens) := by
    cases ps with
    | nil => exact .nil
    | cons p ps => exact .cons (reads_redirectEntry (h p List.mem_cons_self)).apart .nil
  rw [treeTokens_commas, routeTrees, List.map_append, List.map_map, routeEntries]
  exact ReadsApart.intercalate hcomma ⟨',', _, rfl, by decide⟩ <|
    List.rel_append (ReadsApart.map fun p hp => (reads_routeEntry (h p hp)).apart) hlast

theorem reads_table (h : ∀ p ∈ ps, IsPageName p.name) :
    Reads
      (String.join ((if ps.isEmpty then ["export const routes: Routes = [];"]
        else ["export const routes: Routes = [", ",\n".intercalate (routeEntries ps), "];"]).map
          (· ++ "\n")))
      (statementTokens [.exportList "routes" "Routes" (routeTrees ps)]) := by
  split_ifs with hempty
  · obtain rfl := List.isEmpty_iff.1 hempty
    rfl
  · have htokens : statementTokens [.exportList "routes" "Routes" (routeTrees ps)] =
        [[.word "export", .word "const", .word "routes", .mark ':', .word "Routes", .mark '=',
            .opens .square],
          treeTokens (commas (routeTrees ps)),
          [.closes .square, .mark ';']].flatten := by
      simp [statementTokens, Statement.trees, treeTokens, Tree.tokens]
    rw [htokens]
    exact Reads.lines <| .cons (Reads.apart rfl) <| .cons (reads_routeEntries h) <|
      .cons (Reads.apart rfl) .nil

/-- **The table of routes is read as what it says.** -/
theorem read_renderRoutes (h : ∀ p ∈ ps, IsPageName p.name) :
    read (renderRoutes ps) = some (routesStatements ps) := by
  have himport : Reads (importLine "Routes" "@angular/router")
      (statementTokens [.importNames ["Routes"] "@angular/router"]) :=
    reads_importLine (by decide) (by decide)
  have hempty : Reads (String.join ([""].map (· ++ "\n"))) [] := rfl
  have hread := (((Reads.lines (.cons himport.apart .nil)).append (reads_pageImports h)).append
    hempty).append (reads_table h)
  refine read_eq_some ?_
  rw [renderRoutes, routesStatements, List.map_append, List.map_append, ← List.singleton_append,
    List.map_append]
  simpa only [String.join_append, statementTokens_append, List.flatten_singleton,
    List.append_nil] using hread

end Barrel

end Pagewright
