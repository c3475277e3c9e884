import CronHeatMap.HeatMap
import CronHeatMap.Proofs.Scene
import Mathlib.Data.List.SplitBy

/-!
# What the operations of a heat map do

Letting go of the panel changes no more than the lock, its marks and the panel (`unfreeze_eq`).
Drawing puts the firings in place of what was on display (`mem_keys_draw`) and ends with the panel
empty and with nothing under the pointer. It always succeeds: the report has a line for each stretch
that it is about (`Contention.length_summarize`).
-/

namespace CronHeatMap

/-- Taking off the highlight leaves a listing of expressions that were just listed as it is. -/
@[simp] lemma Listing.cleared_ofExpressions (expressions : List String) :
    (ofExpressions expressions).cleared = ofExpressions expressions := by
  simp [ofExpressions, cleared]

/-- No line of the report is left out, since no stretch is empty. -/
lemma Contention.length_summarize (firings : List Firing) :
    (summarize firings).length = min maxLines (stretches firings).length := by
  rw [summarize, ← List.length_take, List.length_filterMap_eq_countP, List.countP_eq_length]
  intro stretch hstretch
  have hne : stretch ≠ [] := List.ne_nil_of_mem_splitBy (List.mem_of_mem_take hstretch)
  simpa using hne

namespace HeatMap

variable {h : HeatMap} {cell : ElementId}

/-! ### Letting go of the panel -/

lemma unfreeze_of_unfrozen (hlock : h.lock = .unfrozen) : h.unfreeze = h := by
  rw [unfreeze, hlock]
  rfl

lemma unfreeze_of_frozen (hlock : h.lock = .frozen cell) :
    h.unfreeze =
      refreshDetail { h with lock := .unfrozen, scene := h.scene.setLocked cell false } := by
  rw [unfreeze, hlock]
  rfl

/-- Letting go of the panel changes the lock, lock marks and the panel, and nothing else. -/
lemma unfreeze_eq (h : HeatMap) :
    ∃ f detail, (∀ e, (f e).highlighted = e.marks.highlighted) ∧
      h.unfreeze = { h with scene := h.scene.mark f, lock := .unfrozen, detail } := by
  cases hlock : h.lock with
  | unfrozen =>
    refine ⟨Element.marks, h.detail, fun _ => rfl, ?_⟩
    rw [unfreeze_of_unfrozen hlock, Scene.mark_marks, ← hlock]
  | frozen cell =>
    refine ⟨_, _, fun e => ?_, unfreeze_of_frozen hlock⟩
    split_ifs <;> rfl

@[simp] lemma lock_unfreeze (h : HeatMap) : h.unfreeze.lock = .unfrozen := by
  obtain ⟨_, _, -, heq⟩ := unfreeze_eq h
  rw [heq]

@[simp] lemma listing_unfreeze (h : HeatMap) : h.unfreeze.listing = h.listing := by
  obtain ⟨_, _, -, heq⟩ := unfreeze_eq h
  rw [heq]

@[simp] lemma axes_unfreeze (h : HeatMap) : h.unfreeze.axes = h.axes := by
  obtain ⟨_, _, -, heq⟩ := unfreeze_eq h
  rw [heq]

/-! ### Drawing -/

/-- Firings that are in order already stay in this order. -/
lemma busiestFirst_eq_self {firings : List Firing}
    (hordered : firings.Pairwise fun f g => g.count ≤ f.count) :
    busiestFirst firings = firings :=
  List.mergeSort_of_pairwise (hordered.imp decide_eq_true)

/-- The scene after a draw. -/
lemma scene_draw (h : HeatMap) (firings : List Firing) :
    (h.draw firings).2.scene = h.unfreeze.clearHighlight.scene.redraw (busiestFirst firings)
      (.select (busiestFirst firings)) := rfl

@[simp] lemma lock_draw (h : HeatMap) (firings : List Firing) :
    (h.draw firings).2.lock = .unfrozen := lock_unfreeze h

@[simp] lemma hovered_draw (h : HeatMap) (firings : List Firing) :
    (h.draw firings).2.hovered = none := rfl

@[simp] lemma detail_draw (h : HeatMap) (firings : List Firing) :
    (h.draw firings).2.detail = .placeholder := rfl

@[simp] lemma listing_draw (h : HeatMap) (firings : List Firing) :
    (h.draw firings).2.listing = h.listing.cleared :=
  congrArg Listing.cleared (listing_unfreeze h)

@[simp] lemma axes_draw (h : HeatMap) (firings : List Firing) :
    (h.draw firings).2.axes = h.axes := axes_unfreeze h

/-- Drawn is what was to be drawn: the cells have the keys of the firings. -/
lemma mem_keys_draw {firings : List Firing} {key : String} :
    key ∈ (h.draw firings).2.scene.elements.map Element.key ↔ key ∈ firings.map Firing.key := by
  rw [scene_draw, Scene.mem_keys_redraw]
  exact ((List.mergeSort_perm firings _).map Firing.key).mem_iff

end HeatMap

end CronHeatMap
