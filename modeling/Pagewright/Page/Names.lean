/-
  The names a page is emitted under: its class, its element, its files, its
  route and the module that declares it.
-/
import Pagewright.Text.Humps

namespace Pagewright.Page

open Text

/-! ## Class and element -/

/-- The class of a page. -/
def className (page : String) : String := pascal page ++ "Component"

/-- The element that stands for a page in a template. -/
def selector (page : String) : String := "app-" ++ kebab page

/-! ## Files -/

/-- The file of the template. -/
def templateFile (page : String) : String := page ++ ".component.html"

/-- The file of the stylesheet. -/
def stylesheetFile (page : String) : String := page ++ ".component.scss"

/-- The file of the class as an import names it. -/
def classStem (page : String) : String := page ++ ".component"

/-- The file of the class. -/
def classFile (page : String) : String := classStem page ++ ".ts"

/-! ## Route -/

/-- The path under which a page is reached; a last `-page` is left out. -/
def route (page : String) : String := withoutEnding "-page" (kebab page)

end Pagewright.Page
