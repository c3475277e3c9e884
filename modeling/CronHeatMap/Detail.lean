import CronHeatMap.Scene

/-!
# The detail panel

The panel shows the firing of one cell in full. It follows the pointer until a click holds it on a
cell; a second click on that cell lets it go.
-/

namespace CronHeatMap

/-- Whether the panel is held on a cell. -/
inductive DetailLock where
  | unfrozen
  | frozen (cell : ElementId)
deriving Repr, DecidableEq, Inhabited

namespace DetailLock

/-- The cell on which the panel is held. -/
def cell? : DetailLock → Option ElementId
  | unfrozen => none
  | frozen cell => some cell

/-- The panel is held on a cell. -/
def isFrozen (lock : DetailLock) : Bool := lock.cell?.isSome

/-- The panel follows the pointer. -/
def acceptsHover (lock : DetailLock) : Bool := !lock.isFrozen

/-- What a click on a cell brings about. -/
inductive Transition where
  /-- The panel is now held on `cell`, no longer on `released`. -/
  | froze (cell : ElementId) (released : Option ElementId)
  /-- The panel was held on `released` and follows the pointer again. -/
  | thawed (released : ElementId)
deriving Repr, DecidableEq

/-- What a click on a cell does to the lock. -/
def click (lock : DetailLock) (cell : ElementId) : Transition :=
  if lock.cell? = some cell then .thawed cell else .froze cell lock.cell?

/-- The lock after a transition. -/
def Transition.lock : Transition → DetailLock
  | froze cell _ => .frozen cell
  | thawed _ => .unfrozen

/-- Moves the lock mark of a scene along with a transition. -/
def Transition.mark (scene : Scene) : Transition → Scene
  | froze cell released =>
    (released.elim scene fun old => scene.setLocked old false).setLocked cell true
  | thawed released => scene.setLocked released false

end DetailLock

/-- What the panel shows. -/
inductive DetailPanel where
  | placeholder
  | cell (header : String) (expressions : List String)
deriving Repr, DecidableEq, Inhabited

namespace DetailPanel

/-- The panel for a firing. -/
def ofFiring (f : Firing) : DetailPanel := .cell (f.headline ++ ":") f.expressions

/-- The panel for an element, if there is one. -/
def ofElement? (e : Option Element) : DetailPanel :=
  (e.map fun e => ofFiring e.firing).getD placeholder

/-- The text at the head of the panel. -/
def header : DetailPanel → String
  | placeholder => "Hover cell for details"
  | cell header _ => header

/-- The expressions that the panel lists, if it shows a cell. -/
def expressions? : DetailPanel → Option (List String)
  | placeholder => none
  | cell _ expressions => some expressions

end DetailPanel

end CronHeatMap
