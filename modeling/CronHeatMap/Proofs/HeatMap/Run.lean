import CronHeatMap.Proofs.HeatMap.Basic

/-!
# Runs of a heat map

A heat map is used by one operation after another: draws, pointing and clicking at elements that may
or may not be there, and work on the listing and on the axes, in any order.
-/

namespace CronHeatMap.HeatMap

/-- What can be done to a heat map. -/
inductive Operation where
  | draw (firings : List Firing)
  | hover (cell : ElementId)
  | leave (cell : ElementId)
  | click (cell : ElementId)
  | unfreeze
  | setListing (expressions : List String)
  | toggleHighlight (i : Nat)
  | clearHighlight
  | setZone (zone : Zone)
  | setReferenceDate (text : String) (today : Date)

/-- The heat map after an operation. -/
def act (h : HeatMap) : Operation → HeatMap
  | .draw firings => (h.draw firings).2
  | .hover cell => (h.hover cell).2
  | .leave cell => h.leave cell
  | .click cell => (h.click cell).2
  | .unfreeze => h.unfreeze
  | .setListing expressions => h.setListing expressions
  | .toggleHighlight i => (h.toggleHighlight i).2
  | .clearHighlight => h.clearHighlight
  | .setZone zone => h.setZone zone
  | .setReferenceDate text today => h.setReferenceDate text today

/-- The heat map after some operations, one after the other. -/
def after (h : HeatMap) (ops : List Operation) : HeatMap := ops.foldl act h

lemma after_append (h : HeatMap) (ops ops' : List Operation) :
    h.after (ops ++ ops') = (h.after ops).after ops' :=
  List.foldl_append

lemma after_concat (h : HeatMap) (ops : List Operation) (op : Operation) :
    h.after (ops ++ [op]) = (h.after ops).act op :=
  after_append h ops [op]

/-- What each operation preserves, a run preserves. -/
lemma after_invariant {I : HeatMap → Prop} {h : HeatMap} (hstart : I h)
    (hact : ∀ h op, I h → I (h.act op)) (ops : List Operation) : I (h.after ops) := by
  induction ops generalizing h with
  | nil => exact hstart
  | cons op ops ih => exact ih (hact h op hstart)

end CronHeatMap.HeatMap
