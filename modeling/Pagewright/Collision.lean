/-
  Generated names that several components, or several pages, share.

  A collision does not stop a run: every member is emitted all the same, and
  the collision says what that does to the generated sources.
-/
import Pagewright.Interaction
import Pagewright.Page.Basic
import Pagewright.Page.Names

namespace Pagewright

/-- What is shared. -/
inductive CollisionKind where
  /-- Components with one id. -/
  | id
  /-- Form controls bound to one property. -/
  | state
  /-- Actions that call one method. -/
  | handler
  /-- Pages under one route. -/
  | route
  deriving DecidableEq, Repr

/-- What a collision does to the generated sources. -/
def CollisionKind.effect : CollisionKind → String
  | id => "nodes share one CSS class and its style rules"
  | state => "duplicate class property; the generated component will not type-check"
  | handler => "duplicate class method; the generated component will not type-check"
  | route => "duplicate route path; only the first matching route is reachable"

/-- A name that more than one owner has. -/
structure Collision where
  kind : CollisionKind
  name : String
  /-- The ids of the components, or the names of the pages. -/
  owners : List String
  deriving DecidableEq, Repr

namespace Collision

/-- The owners of a name among pairs of names and owners, in order. -/
def ownersOf (name : String) (pairs : List (String × String)) : List String :=
  (pairs.filter fun p => p.1 == name).map (·.2)

/-- The names that occur more than once among pairs of names and owners, in the
    order in which they first occur. -/
def shared (kind : CollisionKind) (pairs : List (String × String)) : List Collision :=
  ((pairs.map (·.1)).eraseDups.map fun name => ⟨kind, name, ownersOf name pairs⟩).filter
    fun c => 1 < c.owners.length

end Collision

namespace Page

/-- The shared names of a page: ids first, then properties, then methods. -/
def collisions (p : Page) : List Collision :=
  Collision.shared .id (p.nodes.map fun a => (a.id, a.id)) ++
    Collision.shared .state
      (p.nodes.filterMap fun a => a.stateField?.map fun f => (f.name, a.id)) ++
    Collision.shared .handler
      (p.nodes.filterMap fun a => a.handler?.map fun h => (h.method, h.nodeId))

/-- The routes that several pages share. -/
def routeCollisions (ps : List Page) : List Collision :=
  Collision.shared .route (ps.map fun p => (route p.name, p.name))

end Page

end Pagewright
