/-
  What a run has to say about pages that it compiles all the same.
-/
import Pagewright.Collision
import Pagewright.Options
import Pagewright.Text.Quoted

namespace Pagewright

/-- Something to be said about pages. -/
inductive Warning where
  /-- Components of a page share a generated name. -/
  | sharedName (page : String) (collision : Collision)
  /-- Pages share a route. -/
  | sharedRoute (collision : Collision)
  /-- A component has no rendering. -/
  | unknownKind (page tag : String)
  deriving DecidableEq, Repr

/-- The word for what is shared. -/
def CollisionKind.word : CollisionKind → String
  | id => "DuplicateId"
  | state => "DuplicateState"
  | handler => "DuplicateHandler"
  | route => "DuplicateRoute"

namespace Warning

/-- A warning in words. -/
def message : Warning → String
  | sharedName _ c => "Generated name is shared by several nodes: " ++ c.kind.effect
  | sharedRoute c => "Route path is shared by several pages: " ++ c.kind.effect
  | unknownKind .. => "Unknown component type rendered as a comment"

/-- What a warning is about, under names. -/
def details : Warning → List (String × String)
  | sharedName page c =>
    [("page", page), ("kind", c.kind.word), ("name", c.name), ("nodes", Text.quotedList c.owners)]
  | sharedRoute c => [("route", c.name), ("pages", Text.quotedList c.owners)]
  | unknownKind page tag => [("page", page), ("kind", tag)]

end Warning

namespace Page

/-- The warnings about pages: shared names page by page, shared routes if there
    is to be a barrel, then the components without a rendering. -/
def warnings (options : Options) (ps : List Page) : List Warning :=
  ps.flatMap (fun p => p.collisions.map (.sharedName p.name)) ++
    (if options.library.isSome then (routeCollisions ps).map .sharedRoute else []) ++
    ps.flatMap fun p => p.unknownTags.map (.unknownKind p.name)

end Page

end Pagewright
