import CronHeatMap.Axis
import CronHeatMap.Contention
import CronHeatMap.Detail
import CronHeatMap.Listing
import CronHeatMap.Scene.Reconcile

/-!
# The heat map

Everything that is on display, and what drawing and pointing do to it. Drawing replaces the firings:
it chooses the scale, lets go of the detail panel and the highlight, and reconciles the scene. The
other operations work on the firings that were drawn last.
-/

namespace CronHeatMap

/-- What is on display. -/
structure HeatMap where
  scene : Scene := .empty
  scale : Scale := .select []
  index : ExpressionIndex := {}
  /-- The report on the busiest minutes. -/
  contention : List ContentionLine := []
  listing : Listing := []
  lock : DetailLock := .unfrozen
  /-- The cell under the pointer. -/
  hovered : Option ElementId := none
  detail : DetailPanel := .placeholder
  axes : Axes
deriving DecidableEq

/-- What a draw has done. -/
structure DrawReport where
  reconciliation : Reconciliation
  cells : Nat
  scale : Scale.Kind
deriving Repr, DecidableEq

namespace HeatMap

/-- The empty heat map for a zone. -/
def blank (today : Date) (zone : Zone) : HeatMap := { axes := { reference := today, zone } }

/-! ### The detail panel -/

/-- Shows the cell on which the panel is held, or else the one under the pointer. -/
def refreshDetail (h : HeatMap) : HeatMap :=
  let subject := h.lock.cell? <|> h.hovered
  { h with detail := .ofElement? (subject.bind h.scene.byId?) }

/-- The pointer has entered a cell. Tells whether the panel follows. -/
def hover (h : HeatMap) (cell : ElementId) : Bool × HeatMap :=
  match h.scene.byId? cell with
  | none => (false, h)
  | some e =>
    let h := { h with hovered := some cell }
    if h.lock.acceptsHover then (true, { h with detail := .ofFiring e.firing }) else (false, h)

/-- The pointer has left a cell. The panel goes on showing it. -/
def leave (h : HeatMap) (cell : ElementId) : HeatMap :=
  if h.hovered = some cell then { h with hovered := none } else h

/-- A click on a cell, which also means that the pointer is there. -/
def click (h : HeatMap) (cell : ElementId) : Option DetailLock.Transition × HeatMap :=
  if h.scene.Contains cell then
    let transition := h.lock.click cell
    (some transition, refreshDetail
      { h with
        hovered := some cell
        lock := transition.lock
        scene := transition.mark h.scene })
  else (none, h)

/-- Lets go of the panel. -/
def unfreeze (h : HeatMap) : HeatMap :=
  match h.lock.cell? with
  | none => h
  | some cell => refreshDetail { h with lock := .unfrozen, scene := h.scene.setLocked cell false }

/-! ### The listing -/

/-- Drops the highlight, on the listing and on the cells. -/
def clearHighlight (h : HeatMap) : HeatMap :=
  { h with listing := h.listing.cleared, scene := h.scene.clearHighlights }

/-- Lists other expressions. -/
def setListing (h : HeatMap) (expressions : List String) : HeatMap :=
  { h.clearHighlight with listing := .ofExpressions expressions }

/-- Picks out an entry of the listing instead of the one picked out before, or none if it was this
one. Tells whether the entry is picked out now. -/
def toggleHighlight (h : HeatMap) (i : Nat) : Bool × HeatMap :=
  match h.listing[i]? with
  | none => (false, h)
  | some entry =>
    let cleared := h.clearHighlight
    if entry.highlighted then (false, cleared)
    else (true, { cleared with
      listing := cleared.listing.pick i
      scene := cleared.scene.setHighlighted (h.index.cellsFor entry.expression) true })

/-! ### The axes -/

/-- Labels the axes in another zone. -/
def setZone (h : HeatMap) (zone : Zone) : HeatMap := { h with axes := { h.axes with zone } }

/-- Labels the axes for the date typed into the form. -/
def setReferenceDate (h : HeatMap) (text : String) (today : Date) : HeatMap :=
  { h with axes := .ofDateText text today h.axes.zone }

/-! ### Drawing -/

/-- Firings in descending order of their counts; those with equal counts keep their order. -/
def busiestFirst (firings : List Firing) : List Firing :=
  firings.mergeSort fun f g => g.count ≤ f.count

/-- Draws firings in place of those drawn before. -/
def draw (h : HeatMap) (firings : List Firing) : DrawReport × HeatMap :=
  let ordered := busiestFirst firings
  let scale := Scale.select ordered
  let released := h.unfreeze.clearHighlight
  let (scene, reconciliation) := released.scene.reconcile ordered scale
  ({ reconciliation, cells := scene.elements.length, scale := scale.kind },
    { released with
      scene, scale
      index := .ofScene scene
      contention := Contention.summarize ordered
      hovered := none
      detail := .placeholder })

end HeatMap

end CronHeatMap
