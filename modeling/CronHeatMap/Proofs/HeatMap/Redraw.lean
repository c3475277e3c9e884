import CronHeatMap.Proofs.Contention.Buckets
import CronHeatMap.Proofs.HeatMap.Drawing
import CronHeatMap.Proofs.HeatMap.Identity
import CronHeatMap.Proofs.Scene.KeyedJoin

/-!
# Drawing again

A draw leaves the heat map such that the same firings would be drawn as they are (`Drawn`): the
scene shows them, the report, the scale and the index are theirs, and nothing is held or
highlighted. Whatever the heat map was before, drawing them a second time therefore changes nothing,
and no draw fails (`draw_idempotent`).
-/

namespace CronHeatMap

variable {fs : List Firing}

/-- A listing without a pick is cleared already. -/
lemma Listing.NonePicked.cleared_eq {l : Listing} (hl : l.NonePicked) : l.cleared = l := by
  rw [cleared, List.map_congr_left (g := id), List.map_id]
  intro entry hentry
  rw [← hl entry hentry]
  rfl

namespace Scene

variable {s : Scene} {scale : Scale} {e : Element}

lemma NoneHighlighted.clearHighlights_eq (hs : s.NoneHighlighted) : s.clearHighlights = s := by
  calc s.clearHighlights
      = s.mark Element.marks := mark_congr fun e he => by rw [← hs e he]
    _ = s := s.mark_marks

/-! ### Scenes that show some firings -/

/-- A scene shows the first firing for each key, in the fill of a scale, and nothing else. -/
structure Depicts (s : Scene) (fs : List Firing) (scale : Scale) : Prop where
  mem_keys_iff : ∀ key, key ∈ s.keys ↔ key ∈ fs.map Firing.key
  firing_eq : ∀ e ∈ s.elements, fs.find? (·.key = e.key) = some e.firing
  fill_eq : ∀ e ∈ s.elements, e.fill = scale.color e.firing.count

lemma depicts_redraw (s : Scene) (fs : List Firing) (scale : Scale) :
    (s.redraw fs scale).Depicts fs scale where
  mem_keys_iff _ := mem_keys_redraw
  firing_eq _ he := find?_of_mem_redraw he
  fill_eq _ he := fill_of_mem_redraw he

namespace Depicts

lemma displayFirst_eq (hs : s.Depicts fs scale) (he : e ∈ s.elements) :
    e.displayFirst scale fs = e := by
  rw [Element.displayFirst_of_find? (hs.firing_eq e he), Element.display, ← hs.fill_eq e he]

lemma key_mem (hs : s.Depicts fs scale) (he : e ∈ s.elements) : e.key ∈ fs.map Firing.key :=
  (hs.mem_keys_iff e.key).1 (List.mem_map_of_mem he)

lemma mem_keys (hs : s.Depicts fs scale) {key : String}
    (hkey : key ∈ (fs.map Firing.key).eraseDups) : key ∈ s.keys :=
  (hs.mem_keys_iff key).2 (List.mem_eraseDups.1 hkey)

/-- All elements survive, each as it is. -/
lemma survivors_eq (hs : s.Depicts fs scale) : s.survivors (firstPerKey fs) scale = s.elements := by
  have hall : (s.retain (·.key ∈ fs.map Firing.key)).elements = s.elements := by
    apply List.filter_eq_self.2
    intro e he
    exact decide_eq_true (hs.key_mem he)
  rw [survivors_firstPerKey, hall, List.map_congr_left (g := id), List.map_id]
  exact fun _ he => hs.displayFirst_eq he

/-- No element enters. -/
lemma newcomers_eq (hs : s.Depicts fs scale) : s.newcomers (firstPerKey fs) = [] := by
  rw [← List.map_eq_nil_iff (f := Firing.key), map_key_newcomers, List.filter_eq_nil_iff]
  intro key hkey
  simpa using hs.mem_keys hkey

/-- A scene that shows some firings stays as it is when it is reconciled with them. -/
lemma redraw_eq (hs : s.Depicts fs scale) : s.redraw fs scale = s := by
  apply eq_of_elements_eq
  · show s.survivors (firstPerKey fs) scale ++
      entering scale s.nextId (s.newcomers (firstPerKey fs)) = s.elements
    rw [hs.survivors_eq, hs.newcomers_eq, entering, List.append_nil]
  · show s.nextId + (s.newcomers (firstPerKey fs)).length = s.nextId
    rw [hs.newcomers_eq, List.length_nil, Nat.add_zero]

/-- Only survivors are reported. -/
lemma reconciliation_eq (hs : s.Depicts fs scale) :
    s.reconciliation fs =
      { entered := [], updated := (s.reconciliation fs).updated, exited := [] } := by
  have hentered : (s.reconciliation fs).entered = [] := by
    rw [reconciliation, hs.newcomers_eq]
    rfl
  have hexited : (s.reconciliation fs).exited = [] := by
    rw [exited_reconciliation, List.map_eq_nil_iff, List.filter_eq_nil_iff]
    intro e he
    simpa only [decide_eq_true_eq, not_not] using hs.key_mem he
  exact congrArg₂ (Reconciliation.mk · (s.reconciliation fs).updated ·) hentered hexited

/-- They are reported in the order of the firings. -/
lemma updated_eq (hs : s.Depicts fs scale) :
    (s.reconciliation fs).updated.map some = (fs.map Firing.key).eraseDups.map s.idOf? := by
  have hall :
      (fs.map Firing.key).eraseDups.filter (· ∈ s.keys) = (fs.map Firing.key).eraseDups := by
    apply List.filter_eq_self.2
    intro key hkey
    exact decide_eq_true (hs.mem_keys hkey)
  rw [(joinedWith_reconcile s fs scale).updated_eq, hall]

end Depicts

end Scene

namespace HeatMap

variable {h : HeatMap}

/-! ### Heat maps on which some firings were drawn -/

/-- At rest, there is nothing to let go of. -/
lemma AtRest.released_eq (hh : h.AtRest) : h.unfreeze.clearHighlight = h := by
  rw [unfreeze_of_unfrozen hh.lock_eq, clearHighlight, hh.nonePicked.cleared_eq,
    hh.noneHighlighted.clearHighlights_eq]

/-- The heat map shows the first firing for each key, reports on all of them and is at rest. -/
structure Drawn (h : HeatMap) (fs : List Firing) : Prop extends AtRest h where
  depicts : h.scene.Depicts (busiestFirst fs) h.scale
  scale_eq : h.scale = .select (busiestFirst fs)
  index_eq : h.index = .ofScene h.scene
  contention_eq : h.contention = Contention.summarize (busiestFirst fs)

lemma drawn_draw (h : HeatMap) (fs : List Firing) : (h.draw fs).2.Drawn fs where
  toAtRest := h.atRest_draw fs
  depicts := Scene.depicts_redraw ..
  scale_eq := rfl
  index_eq := rfl
  contention_eq := rfl

/-- Firings that were drawn are drawn as they are. -/
lemma Drawn.draw_eq (hh : h.Drawn fs) :
    h.draw fs =
      ({ reconciliation := h.scene.reconciliation (busiestFirst fs)
         cells := h.scene.elements.length
         scale := h.scale.kind }, h) := by
  rw [draw, hh.released_eq, Scene.reconcile, ← hh.scale_eq, hh.depicts.redraw_eq]
  dsimp only
  rw [← hh.index_eq, ← hh.contention_eq, ← hh.hovered_eq, ← hh.detail_eq]

/-! ### Drawing in one pass -/

/-- Draws firings in place of those drawn before, with a report and a reconciliation of one pass
each. The report is made first, so that the heat map stays as it is if this fails. -/
def drawChecked (h : HeatMap) (firings : List Firing) :
    Except Service.Error (DrawReport × HeatMap) := do
  let ordered := busiestFirst firings
  let contention ← Contention.summarizeChecked ordered
  let scale := Scale.select ordered
  let released :=
    { h.unfreeze.clearHighlight with hovered := none, detail := .placeholder }
  let (scene, reconciliation) := released.scene.pass ordered scale
  let drawn := { released with scene, index := .ofScene scene, contention, scale }
  return ({ cells := scene.elements.length, scale := scale.kind, reconciliation }, drawn)

/-- Drawing in one pass is drawing, and does not fail. -/
lemma drawChecked_eq (h : HeatMap) (fs : List Firing) : h.drawChecked fs = .ok (h.draw fs) := by
  simp only [drawChecked, Contention.summarizeChecked_eq, Scene.pass_eq_reconcile]
  rfl

/-- On any heat map, a draw succeeds, and a second draw of the same firings leaves everything as it
is. Its report has no element that has entered or exited, and one survivor for each key. -/
theorem draw_idempotent (h : HeatMap) (fs : List Firing) :
    h.drawChecked fs = .ok (h.draw fs) ∧
    ∃ updated : List ElementId,
      (h.draw fs).2.drawChecked fs =
        .ok ({ (h.draw fs).1 with reconciliation := { entered := [], updated, exited := [] } },
          (h.draw fs).2) ∧
      updated.map some =
        ((busiestFirst fs).map Firing.key).eraseDups.map (h.draw fs).2.scene.idOf? := by
  have hdrawn := h.drawn_draw fs
  refine ⟨h.drawChecked_eq fs, _, ?_, hdrawn.depicts.updated_eq⟩
  rw [drawChecked_eq, hdrawn.draw_eq, hdrawn.depicts.reconciliation_eq]
  rfl

end HeatMap

end CronHeatMap
