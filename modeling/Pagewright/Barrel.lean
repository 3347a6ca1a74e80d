/-
  The sources that tie the pages of a run together: a module that declares all
  page classes, a public interface that exports their files again, and a table
  of routes.  Paths are relative to the directory the pages are written to.
-/
import Pagewright.Page.Basic
import Pagewright.Page.Names
import Pagewright.Text.Script

namespace Pagewright.Barrel

open Text

/-! ## Names -/

/-- The file of the module. -/
def moduleFile (module : String) : String := module ++ ".module.ts"

/-- The file of the public interface. -/
def publicApiFile : String := "public-api.ts"

/-- The file of the routes. -/
def routesFile : String := "app.routes.ts"

/-- The class of the module. -/
def moduleClass (module : String) : String := pascal module ++ "Module"

/-- The file of a page class as an import names it. -/
def pageFile (page : String) : String := "./" ++ page ++ "/" ++ Page.classStem page

/-- The line that imports names from a file. -/
def importLine (name file : String) : String :=
  "import \x7b " ++ name ++ " \x7d from '" ++ file ++ "';"

/-- The line that imports the class of a page. -/
def pageImport (p : Page) : String := importLine (Page.className p.name) (pageFile p.name)

/-! ## Module -/

/-- The module that declares and exports every page. -/
def renderModule (module : String) (pages : List Page) : String :=
  let classes := ",\n".intercalate (pages.map fun p => "    " ++ Page.className p.name)
  String.join <|
    ([importLine "NgModule" "@angular/core",
      importLine "CommonModule" "@angular/common",
      importLine "FormsModule" "@angular/forms"] ++
      pages.map pageImport ++
      ["",
      "@NgModule(\x7b",
      "  imports: [CommonModule, FormsModule],",
      "  declarations: [",
      classes,
      "  ],",
      "  exports: [",
      classes,
      "  ]",
      "\x7d)",
      "export class " ++ moduleClass module ++ " \x7b\x7d"]).map (· ++ "\n")

/-! ## Public interface -/

/-- The line that exports a file again. -/
def exportLine (file : String) : String := "export * from '" ++ file ++ "';"

/-- The public interface: the module, then every page. -/
def renderPublicApi (module : String) (pages : List Page) : String :=
  String.join <|
    (exportLine ("./" ++ module ++ ".module") ::
      pages.map fun p => exportLine (pageFile p.name)).map (· ++ "\n")

/-! ## Routes -/

/-- The entry of a page in the table of routes. -/
def routeEntry (p : Page) : String :=
  "  \x7b path: " ++ Script.literal (Page.route p.name) ++ ", component: " ++
    Page.className p.name ++ " \x7d"

/-- The entry that leads the empty path to a page. -/
def redirectEntry (p : Page) : String :=
  "  \x7b path: '', redirectTo: " ++ Script.literal (Page.route p.name) ++
    ", pathMatch: 'full' \x7d"

/-- The table of routes: every page in order, then the way to the first. -/
def routeEntries (pages : List Page) : List String :=
  pages.map routeEntry ++ (pages.head?.map redirectEntry).toList

/-- The table of routes as a source. -/
def renderRoutes (pages : List Page) : String :=
  String.join <|
    (importLine "Routes" "@angular/router" :: pages.map pageImport ++ [""] ++
      (if pages.isEmpty then ["export const routes: Routes = [];"]
        else ["export const routes: Routes = [", ",\n".intercalate (routeEntries pages), "];"])).map
      (· ++ "\n")

/-- The files of the barrel: their names and what they hold. -/
def files (module : String) (pages : List Page) : List (String × String) :=
  [(moduleFile module, renderModule module pages), (publicApiFile, renderPublicApi module pages),
    (routesFile, renderRoutes pages)]

end Pagewright.Barrel
