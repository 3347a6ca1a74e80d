/-
  Jobs side by side.

  * `both` runs two jobs to their ends, neither of which waits for the other; how
    their operations fall between each other is up to the monad;
  * `all` runs jobs of which each may fail.  Once one has failed, those that have
    not begun may be left out, and the failure that is told may be that of any
    that has failed.
-/
import Pagewright.Files.Disk

namespace Pagewright

/-- Running jobs side by side. -/
class Concurrent (m : Type → Type) where
  /-- Runs two jobs, and goes on when both have ended. -/
  both {α β : Type} : m α → m β → m (α × β)
  /-- Runs jobs, and goes on when all that have begun have ended: with all their
      results, or with a failure. -/
  all {ε α : Type} : List (m (Except ε α)) → m (Except ε (List α))

/-- One job is run after the other, those of `all` up to the first that fails. -/
abbrev Concurrent.inOrder {m : Type → Type} [Monad m] : Concurrent m where
  both x y := do
    let a ← x
    let b ← y
    return (a, b)
  all xs := (xs.mapM ExceptT.mk).run

/-- A value that stands for the files takes one job after the other. -/
instance : Concurrent (StateM Disk) := .inOrder

end Pagewright
