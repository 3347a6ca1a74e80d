/-
  The three sources a page is compiled to.
-/
import Pagewright.Page.Class
import Pagewright.Stylesheet

namespace Pagewright.Page

/-- The sources of a page. -/
structure Sources where
  template : String
  stylesheet : String
  script : String
  deriving DecidableEq, Repr

/-- The sources of a page, under a theme that its stylesheet imports. -/
def sources (p : Page) (theme : String) : Sources where
  template := Component.renderPage p.components
  stylesheet := Component.renderStyles theme p.components
  script :=
    renderClass p.name (Component.stateFields p.components) (Component.handlers p.components)

/-- The names of the files of a page, in the order of `Sources`. -/
def fileNames (page : String) : List String :=
  [templateFile page, stylesheetFile page, classFile page]

/-- The files of a page: their names and what they hold. -/
def files (p : Page) (theme : String) : List (String × String) :=
  let s := p.sources theme
  (fileNames p.name).zip [s.template, s.stylesheet, s.script]

end Pagewright.Page
