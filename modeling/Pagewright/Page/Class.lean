/-
  The class of a page: a header that names its element and its files, then one
  line for each property and each method.
-/
import Pagewright.Interaction
import Pagewright.Page.Basic
import Pagewright.Page.Names

namespace Pagewright.Page

open Text

/-- The lines between the braces of a class, each indented.  An empty line
    parts the properties from the methods. -/
def classMembers (fields : List StateField) (handlers : List Handler) : List String :=
  fields.map (fun f => "  " ++ f.line) ++
    (if fields.isEmpty || handlers.isEmpty then [] else [""]) ++
    handlers.map (fun h => "  " ++ h.line)

/-- The class of a page with given members. -/
def renderClass (page : String) (fields : List StateField) (handlers : List Handler) : String :=
  String.join <|
    (["import \x7b Component \x7d from '@angular/core';",
      "",
      "@Component(\x7b",
      "  selector: '" ++ selector page ++ "',",
      "  templateUrl: './" ++ templateFile page ++ "',",
      "  styleUrls: ['./" ++ stylesheetFile page ++ "']",
      "\x7d)",
      "export class " ++ className page ++ " \x7b"] ++
      classMembers fields handlers ++ ["\x7d"]).map (· ++ "\n")

end Pagewright.Page
