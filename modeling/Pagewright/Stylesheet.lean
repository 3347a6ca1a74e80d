/-
  Stylesheets of pages: the theme, and a rule for every component with styles.

  * `Attributes.rule?` is the rule of one component, its properties in kebab
    case and in the order in which they were given;
  * `renderStyles` puts the rules of a whole tree below the import of the
    theme, in reading order, separated by blank lines.
-/
import Pagewright.Component.Basic
import Pagewright.Text.Humps

namespace Pagewright

open Text

/-- One line of a rule. -/
def declaration (property value : String) : String := "  " ++ kebab property ++ ": " ++ value ++ ";"

/-- The rule for a component, if it has styles. -/
def Attributes.rule? (a : Attributes) : Option String :=
  if a.styles.isEmpty then none
  else some <| lines <|
    ["." ++ a.id ++ " \x7b"] ++ a.styles.entries.map (fun p => declaration p.1 p.2) ++ ["\x7d"]

/-- The line that brings in the theme. -/
def themeImportLine (theme : String) : String := "@import '" ++ theme ++ "';"

/-- The stylesheet of the components of a page. -/
def Component.renderStyles (theme : String) (cs : List Component) : String :=
  "\n\n".intercalate (themeImportLine theme :: (preorderAll cs).filterMap Attributes.rule?)

end Pagewright
