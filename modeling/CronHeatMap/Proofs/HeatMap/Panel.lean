import CronHeatMap.Proofs.HeatMap.Run

/-!
# The detail panel and what it is held on

The lock, the lock marks of the elements, the pointer and the panel are four pieces of state, and
most operations touch more than one of them. One invariant, `Settled`, holds them together: the lock
and the pointer are at elements of the scene, the lock mark is where the lock is, and the panel shows
its subject, which is the element it is held on or else the one under the pointer.
-/

namespace CronHeatMap

/-- The panel does not show marks. -/
lemma DetailPanel.ofElement?_remarked (f : Element → Marks) (e? : Option Element) :
    ofElement? (e?.map fun e => { e with marks := f e }) = ofElement? e? := by
  cases e? <;> rfl

namespace DetailLock

variable {scene : Scene} {lock : DetailLock} {cell : ElementId}

/-- A click moves the lock mark along with the lock. -/
lemma lockedAt_mark_click (hs : scene.LockedAt lock.cell?) (cell : ElementId) :
    ((lock.click cell).mark scene).LockedAt (lock.click cell).lock.cell? := by
  rw [click]
  split_ifs with hsame
  · rw [hsame] at hs
    exact hs.release
  · cases hlock : lock.cell? with
    | none =>
      rw [hlock] at hs
      exact hs.lock cell
    | some old =>
      rw [hlock] at hs
      exact hs.release.lock cell

/-- A click does no more to the scene than to change lock marks. -/
lemma mark_click_eq (scene : Scene) (lock : DetailLock) (cell : ElementId) :
    ∃ f : Element → Marks, (∀ e, (f e).highlighted = e.marks.highlighted) ∧
      (lock.click cell).mark scene = scene.mark f := by
  rw [click]
  split_ifs
  · exact ⟨_, fun e => by split_ifs <;> rfl, rfl⟩
  · cases lock.cell? with
    | none => exact ⟨_, fun e => by split_ifs <;> rfl, rfl⟩
    | some old => exact ⟨_, fun e => by split_ifs <;> rfl, Scene.mark_mark ..⟩

/-- If a click leaves the panel held, then on the cell that was clicked. -/
lemma eq_of_cell?_lock_click {held : ElementId}
    (hheld : (lock.click cell).lock.cell? = some held) : held = cell := by
  rw [click] at hheld
  split_ifs at hheld
  · cases hheld
  · exact (Option.some.inj hheld).symm

end DetailLock

namespace HeatMap

variable {h : HeatMap} {cell : ElementId}

/-! ### The invariant -/

/-- The cell that the panel is about: the one on which it is held, or else the one under the
pointer. -/
def subject? (h : HeatMap) : Option ElementId := h.lock.cell? <|> h.hovered

/-- The lock and the pointer are at elements of the scene, and the lock mark is where the lock is. -/
structure Placed (h : HeatMap) : Prop where
  lockedAt : h.scene.LockedAt h.lock.cell?
  contains_lock : ∀ cell, h.lock.cell? = some cell → h.scene.Contains cell
  contains_hovered : ∀ cell, h.hovered = some cell → h.scene.Contains cell

/-- The panel shows its subject; without one, it is empty or goes on showing an element. -/
structure Settled (h : HeatMap) : Prop extends Placed h where
  shows_subject : ∀ cell, h.subject? = some cell → h.detail = .ofElement? (h.scene.byId? cell)
  shows_element : h.subject? = none →
    h.detail = .placeholder ∨ ∃ e ∈ h.scene.elements, h.detail = .ofFiring e.firing

namespace Placed

/-- The subject of the panel is an element of the scene. -/
lemma contains_subject (hp : h.Placed) (hsubject : h.subject? = some cell) :
    h.scene.Contains cell := by
  cases hlock : h.lock.cell? with
  | some held =>
    rw [subject?, hlock] at hsubject
    exact hp.contains_lock cell (hlock.trans hsubject)
  | none =>
    rw [subject?, hlock] at hsubject
    exact hp.contains_hovered cell hsubject

/-- The pointer comes to an element. -/
lemma point (hp : h.Placed) (hcell : h.scene.Contains cell) :
    ({ h with hovered := some cell } : HeatMap).Placed where
  lockedAt := hp.lockedAt
  contains_lock := hp.contains_lock
  contains_hovered := by
    rintro _ ⟨⟩
    exact hcell

/-- The panel is let go. -/
lemma release (hp : h.Placed) (hlock : h.lock = .frozen cell) :
    ({ h with lock := .unfrozen, scene := h.scene.setLocked cell false } : HeatMap).Placed where
  lockedAt := by
    have hlocked : h.scene.LockedAt (some cell) := by
      simpa only [hlock, DetailLock.cell?] using hp.lockedAt
    exact hlocked.release
  contains_lock := by simp [DetailLock.cell?]
  contains_hovered cell' hcell' := Scene.contains_mark.2 (hp.contains_hovered cell' hcell')

/-- An element is clicked. -/
lemma click (hp : h.Placed) (hcell : h.scene.Contains cell) :
    ({ h with
        hovered := some cell
        lock := (h.lock.click cell).lock
        scene := (h.lock.click cell).mark h.scene } : HeatMap).Placed where
  lockedAt := DetailLock.lockedAt_mark_click hp.lockedAt cell
  contains_lock := by
    obtain ⟨f, -, hf⟩ := DetailLock.mark_click_eq h.scene h.lock cell
    intro held hheld
    rw [DetailLock.eq_of_cell?_lock_click hheld, hf]
    exact Scene.contains_mark.2 hcell
  contains_hovered := by
    obtain ⟨f, -, hf⟩ := DetailLock.mark_click_eq h.scene h.lock cell
    rintro _ ⟨⟩
    rw [hf]
    exact Scene.contains_mark.2 hcell

/-- The panel is made to fit. -/
lemma settled_refreshDetail (hp : h.Placed) : h.refreshDetail.Settled where
  lockedAt := hp.lockedAt
  contains_lock := hp.contains_lock
  contains_hovered := hp.contains_hovered
  shows_subject cell hsubject := by
    have hsubject : h.subject? = some cell := hsubject
    show DetailPanel.ofElement? (h.subject?.bind h.scene.byId?) = _
    rw [hsubject]
    rfl
  shows_element hsubject := by
    have hsubject : h.subject? = none := hsubject
    refine Or.inl ?_
    show DetailPanel.ofElement? (h.subject?.bind h.scene.byId?) = _
    rw [hsubject]
    rfl

end Placed

/-! ### One operation -/

namespace Settled

/-- The panel shows the firing of its subject. -/
lemma exists_detail_eq (hs : h.Settled) (hsubject : h.subject? = some cell) :
    ∃ e ∈ h.scene.elements, e.id = cell ∧ h.detail = .ofFiring e.firing := by
  obtain ⟨e, hfound⟩ := Scene.contains_iff_exists_byId?.1 (hs.contains_subject hsubject)
  obtain ⟨he, hid⟩ := Scene.byId?_eq_some_iff.1 hfound
  refine ⟨e, he, hid, ?_⟩
  rw [hs.shows_subject cell hsubject, hfound]
  rfl

lemma blank (today : Date) (zone : Zone) : (HeatMap.blank today zone).Settled where
  lockedAt := .empty
  contains_lock := by simp [HeatMap.blank, DetailLock.cell?]
  contains_hovered := by simp [HeatMap.blank]
  shows_subject := by simp [HeatMap.blank, subject?, DetailLock.cell?]
  shows_element := fun _ => Or.inl rfl

/-- Marks of another kind, the listing and the axes do not matter. -/
lemma remark (hs : h.Settled) {f : Element → Marks}
    (hf : ∀ e ∈ h.scene.elements, (f e).locked = e.marks.locked) (listing : Listing) :
    ({ h with scene := h.scene.mark f, listing } : HeatMap).Settled where
  lockedAt := hs.lockedAt.mark hf
  contains_lock cell hcell := Scene.contains_mark.2 (hs.contains_lock cell hcell)
  contains_hovered cell hcell := Scene.contains_mark.2 (hs.contains_hovered cell hcell)
  shows_subject cell hsubject := by
    rw [Scene.byId?_mark, DetailPanel.ofElement?_remarked]
    exact hs.shows_subject cell hsubject
  shows_element hsubject := by
    rcases hs.shows_element hsubject with hplaceholder | ⟨e, he, hdetail⟩
    · exact Or.inl hplaceholder
    · exact Or.inr ⟨_, List.mem_map_of_mem he, hdetail⟩

lemma clearHighlight (hs : h.Settled) : h.clearHighlight.Settled :=
  hs.remark (f := fun e => { e.marks with highlighted := false }) (fun _ _ => rfl) _

lemma setListing (hs : h.Settled) (expressions : List String) : (h.setListing expressions).Settled :=
  hs.remark (f := fun e => { e.marks with highlighted := false }) (fun _ _ => rfl) _

lemma toggleHighlight (hs : h.Settled) (i : Nat) : (h.toggleHighlight i).2.Settled := by
  rw [HeatMap.toggleHighlight]
  split
  · exact hs
  · split_ifs
    · exact hs.clearHighlight
    · refine hs.clearHighlight.remark (fun e _ => ?_) _
      split_ifs <;> rfl

lemma setAxes (hs : h.Settled) (axes : Axes) : ({ h with axes } : HeatMap).Settled :=
  { hs with }

lemma unfreeze (hs : h.Settled) : h.unfreeze.Settled := by
  cases hlock : h.lock with
  | unfrozen =>
    rw [unfreeze_of_unfrozen hlock]
    exact hs
  | frozen cell =>
    rw [unfreeze_of_frozen hlock]
    exact (hs.release hlock).settled_refreshDetail

lemma hover (hs : h.Settled) (cell : ElementId) : (h.hover cell).2.Settled := by
  cases hfound : h.scene.byId? cell with
  | none =>
    simp only [HeatMap.hover, hfound]
    exact hs
  | some e =>
    have hpoint := hs.point (Scene.contains_iff_exists_byId?.2 ⟨e, hfound⟩)
    cases hlock : h.lock with
    | unfrozen =>
      have heq : (h.hover cell).2 = refreshDetail { h with hovered := some cell } := by
        simp [HeatMap.hover, refreshDetail, hfound, hlock, DetailLock.acceptsHover,
          DetailLock.isFrozen, DetailLock.cell?, DetailPanel.ofElement?]
      rw [heq]
      exact hpoint.settled_refreshDetail
    | frozen held =>
      have heq : (h.hover cell).2 = { h with hovered := some cell } := by
        simp [HeatMap.hover, hfound, hlock, DetailLock.acceptsHover, DetailLock.isFrozen,
          DetailLock.cell?]
      -- The panel is held, so that its subject is not the cell under the pointer.
      have hsubject : ({ h with hovered := some cell } : HeatMap).subject? = h.subject? := by
        simp [subject?, hlock, DetailLock.cell?]
      rw [heq]
      exact
        { hpoint with
          shows_subject := fun cell' hcell' => hs.shows_subject cell' (hsubject ▸ hcell')
          shows_element := fun hnone => hs.shows_element (hsubject ▸ hnone) }

lemma leave (hs : h.Settled) (cell : ElementId) : (h.leave cell).Settled := by
  rw [HeatMap.leave]
  split_ifs with hhovered
  · have hleft : ({ h with hovered := none } : HeatMap).Placed :=
      { hs.toPlaced with contains_hovered := by simp }
    cases hlock : h.lock.cell? with
    | none =>
      have hsubject : h.subject? = some cell := by simp [subject?, hlock, hhovered]
      obtain ⟨e, he, -, hdetail⟩ := hs.exists_detail_eq hsubject
      exact
        { hleft with
          shows_subject := by simp [subject?, hlock]
          shows_element := fun _ => Or.inr ⟨e, he, hdetail⟩ }
    | some held =>
      have hsubject : ({ h with hovered := none } : HeatMap).subject? = h.subject? := by
        simp [subject?, hlock]
      exact
        { hleft with
          shows_subject := fun cell' hcell' => hs.shows_subject cell' (hsubject ▸ hcell')
          shows_element := fun hnone => hs.shows_element (hsubject ▸ hnone) }
  · exact hs

lemma click (hs : h.Settled) (cell : ElementId) : (h.click cell).2.Settled := by
  rw [HeatMap.click]
  split_ifs with hcell
  · exact (hs.toPlaced.click hcell).settled_refreshDetail
  · exact hs

lemma draw (hs : h.Settled) (firings : List Firing) : (h.draw firings).2.Settled where
  lockedAt := by
    have hreleased := hs.unfreeze.clearHighlight.lockedAt
    have hlock : h.unfreeze.clearHighlight.lock = .unfrozen := lock_unfreeze h
    rw [hlock] at hreleased
    rw [scene_draw, lock_draw]
    exact hreleased.redraw
  contains_lock := by simp [DetailLock.cell?]
  contains_hovered := by simp
  shows_subject := by simp [subject?, DetailLock.cell?]
  shows_element := fun _ => Or.inl (detail_draw h firings)

/-- Every operation keeps the panel settled. -/
lemma act (hs : h.Settled) (op : Operation) : (h.act op).Settled := by
  cases op with
  | draw firings => exact hs.draw firings
  | hover cell => exact hs.hover cell
  | leave cell => exact hs.leave cell
  | click cell => exact hs.click cell
  | unfreeze => exact hs.unfreeze
  | setListing expressions => exact hs.setListing expressions
  | toggleHighlight i => exact hs.toggleHighlight i
  | clearHighlight => exact hs.clearHighlight
  | setZone zone => exact hs.setAxes _
  | setReferenceDate text today => exact hs.setAxes _

end Settled

/-! ### Going back to the form -/

/-- `h'` shows what `h` shows, but with no entry and no element marked and with the panel let go. -/
structure Released (h h' : HeatMap) : Prop where
  elements_eq : h'.scene.elements = h.scene.elements.map fun e => { e with marks := {} }
  nextId_eq : h'.scene.nextId = h.scene.nextId
  scale_eq : h'.scale = h.scale
  index_eq : h'.index = h.index
  contention_eq : h'.contention = h.contention
  listing_eq : h'.listing = h.listing.map fun entry => { entry with highlighted := false }
  lock_eq : h'.lock = .unfrozen
  hovered_eq : h'.hovered = h.hovered
  axes_eq : h'.axes = h.axes

/-- Dropping the highlight and letting go of the panel takes off all marks. -/
lemma Settled.released (hs : h.Settled) : h.Released h.clearHighlight.unfreeze := by
  obtain ⟨f, detail, hf, heq⟩ := unfreeze_eq h.clearHighlight
  have hlocked := hs.clearHighlight.unfreeze.lockedAt
  have hscene : h.clearHighlight.unfreeze.scene =
      h.scene.mark fun e => f { e with marks := { e.marks with highlighted := false } } := by
    rw [heq]
    exact Scene.mark_mark ..
  rw [lock_unfreeze, DetailLock.cell?, hscene] at hlocked
  refine ⟨?_, ?_, ?_, ?_, ?_, ?_, lock_unfreeze _, ?_, ?_⟩
  · rw [hscene]
    exact hlocked.elements_mark_eq fun e _ => hf _
  all_goals
    rw [heq]
    rfl

/-! ### Runs -/

/-- In every run, the panel is settled. -/
lemma settled_after (today : Date) (zone : Zone) (ops : List Operation) :
    ((blank today zone).after ops).Settled :=
  after_invariant (.blank today zone) (fun _ op hs => hs.act op) ops

/-- The panel fits the lock and the pointer. -/
structure PanelFits (h : HeatMap) : Prop where
  /-- A panel that is held shows the element that it is held on, which is locked as the only one. -/
  held : ∀ cell, h.lock = .frozen cell → ∃ e ∈ h.scene.elements, e.id = cell ∧
    (∀ e' ∈ h.scene.elements, e'.marks.locked = true ↔ e' = e) ∧ h.detail = .ofFiring e.firing
  /-- While the panel is not held, no element is locked. -/
  unlocked : h.lock = .unfrozen → ∀ e ∈ h.scene.elements, e.marks.locked = false
  /-- The pointer is at an element, which the panel shows unless it is held. -/
  pointed : ∀ cell, h.hovered = some cell → ∃ e ∈ h.scene.elements, e.id = cell ∧
    (h.lock = .unfrozen → h.detail = .ofFiring e.firing)
  /-- With the pointer at no element, a panel that is not held is empty or shows some element. -/
  unpointed : h.lock = .unfrozen → h.hovered = none →
    h.detail = .placeholder ∨ ∃ e ∈ h.scene.elements, h.detail = .ofFiring e.firing

lemma Settled.panelFits (hs : h.Settled) : h.PanelFits where
  held := by
    intro cell hlock
    have hsubject : h.subject? = some cell := by simp [subject?, hlock, DetailLock.cell?]
    obtain ⟨e, he, rfl, hdetail⟩ := hs.exists_detail_eq hsubject
    refine ⟨e, he, rfl, fun e' he' => ?_, hdetail⟩
    rw [hs.lockedAt e' he', hlock, DetailLock.cell?, Option.some_inj]
    constructor
    · intro hid
      exact (List.inj_on_of_nodup_map h.scene.ids_nodup he he' hid).symm
    · rintro rfl
      rfl
  unlocked := by
    intro hlock e he
    simpa [hlock, DetailLock.cell?] using hs.lockedAt e he
  pointed := by
    intro cell hhovered
    cases hlock : h.lock with
    | unfrozen =>
      have hsubject : h.subject? = some cell := by
        simp [subject?, hlock, hhovered, DetailLock.cell?]
      obtain ⟨e, he, hid, hdetail⟩ := hs.exists_detail_eq hsubject
      exact ⟨e, he, hid, fun _ => hdetail⟩
    | frozen held =>
      obtain ⟨e, he, hid⟩ := hs.contains_hovered cell hhovered
      exact ⟨e, he, hid, by simp⟩
  unpointed := by
    intro hlock hhovered
    exact hs.shows_element (by simp [subject?, hlock, hhovered, DetailLock.cell?])

/-- Whatever is done to a heat map, with numbers of elements that are there or not, the panel fits
the lock and the pointer. -/
theorem panel_fits_always (today : Date) (zone : Zone) (ops : List Operation) :
    ((blank today zone).after ops).PanelFits :=
  (settled_after today zone ops).panelFits

-- The panel is held on the first element while the pointer is at the second one.
example :
    let h := (blank .unixEpoch .utc).after
      [.draw [default, { (default : Firing) with key := "00:01" }], .click 0, .hover 1]
    h.lock = .frozen 0 ∧ h.hovered = some 1 := by
  cbv

end HeatMap

end CronHeatMap
