/-
  Induction over trees of components.
-/
import Pagewright.Component.Basic

namespace Pagewright.Component

/-- What holds of a component as soon as it holds of its children holds of all
    components. -/
@[elab_as_elim, induction_eliminator]
theorem tree_induction {P : Component → Prop}
    (node : ∀ a cs, (∀ c ∈ cs, P c) → P (.node a cs)) : ∀ c, P c
  | .node a cs => node a cs fun c _ => tree_induction node c

end Pagewright.Component
