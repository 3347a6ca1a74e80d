/-
  Pages: a name and the components shown on it.
-/
import Pagewright.Component.Basic

namespace Pagewright

/-- A page and its components, from top to bottom. -/
structure Page where
  name : String := ""
  components : List Component := []
  deriving Repr

namespace Page

/-- What all components of a page say of themselves, in reading order. -/
def nodes (p : Page) : List Attributes := Component.preorderAll p.components

/-- The tags of the components that have no rendering. -/
def unknownTags (p : Page) : List String := p.nodes.filterMap fun a => a.kind.unknownTag?

end Page

end Pagewright
