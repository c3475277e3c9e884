import CronHeatMap.Proofs.HeatMap.Panel
import CronHeatMap.Proofs.Scene.Index

/-!
# The highlight, on the listing and on the cells

An entry of the listing is picked out, and the elements in which its expression fires are
highlighted. The marks of the elements are set through the index, which is built when firings are
drawn, while the listing may be replaced at any time. One invariant, `Highlighting`, holds them
together: the index is that of the scene, at most one entry is picked out, and the highlighted
elements are those of this entry. An operation either starts from no marks at all or leaves the
listing, the index and the highlight marks as they are (`SameHighlight`).
-/

namespace CronHeatMap

namespace Listing

variable {l : Listing} {i j : Nat}

/-- The entry at a place of the listing is picked out. -/
def Picked (l : Listing) (i : Nat) : Prop := ∃ entry, l[i]? = some entry ∧ entry.highlighted = true

lemma Picked.lt_length (hi : l.Picked i) : i < l.length := by
  obtain ⟨entry, hentry, -⟩ := hi
  exact (List.getElem?_eq_some_iff.1 hentry).1

/-- No entry is picked out. -/
def NonePicked (l : Listing) : Prop := ∀ entry ∈ l, entry.highlighted = false

lemma NonePicked.not_picked (hl : l.NonePicked) (i : Nat) : ¬ l.Picked i := by
  rintro ⟨entry, hentry, hpicked⟩
  rw [hl entry (List.mem_of_getElem? hentry)] at hpicked
  cases hpicked

lemma nonePicked_cleared (l : Listing) : l.cleared.NonePicked := by
  simp [NonePicked, cleared]

lemma nonePicked_ofExpressions (expressions : List String) :
    (ofExpressions expressions).NonePicked := by
  simp [NonePicked, ofExpressions]

/-- Picking out an entry of a cleared listing leaves this entry as the only one. -/
lemma getElem?_pick_cleared (l : Listing) (i j : Nat) :
    (l.cleared.pick i)[j]? =
      l[j]?.map fun entry => { entry with highlighted := decide (j = i) } := by
  rw [pick, List.getElem?_modify, cleared, List.getElem?_map]
  by_cases hij : i = j
  · simp [hij, Function.comp_def]
  · simp [hij, Ne.symm hij]

lemma picked_pick_cleared_iff : (l.cleared.pick i).Picked j ↔ j = i ∧ i < l.length := by
  constructor
  · rintro ⟨entry, hentry, hpicked⟩
    rw [getElem?_pick_cleared, Option.map_eq_some_iff] at hentry
    obtain ⟨entry₀, hentry₀, rfl⟩ := hentry
    obtain rfl := of_decide_eq_true hpicked
    exact ⟨rfl, (List.getElem?_eq_some_iff.1 hentry₀).1⟩
  · rintro ⟨rfl, hj⟩
    refine ⟨{ l[j] with highlighted := true }, ?_, rfl⟩
    rw [getElem?_pick_cleared, List.getElem?_eq_getElem hj, Option.map_some, decide_eq_true rfl]

/-- The one entry that is picked out from a cleared listing. -/
lemma exists_mem_pick_cleared_iff {entry : ListingEntry} (hentry : l[i]? = some entry)
    (p : String → Prop) :
    (∃ entry' ∈ l.cleared.pick i, entry'.highlighted = true ∧ p entry'.expression) ↔
      p entry.expression := by
  constructor
  · rintro ⟨entry', hentry', hpicked, hp⟩
    obtain ⟨j, hj⟩ := List.mem_iff_getElem?.1 hentry'
    obtain ⟨rfl, -⟩ := picked_pick_cleared_iff.1 ⟨entry', hj, hpicked⟩
    rw [getElem?_pick_cleared, hentry] at hj
    cases hj
    exact hp
  · intro hp
    have hpicked : (l.cleared.pick i)[i]? = some { entry with highlighted := true } := by
      rw [getElem?_pick_cleared, hentry, Option.map_some, decide_eq_true rfl]
    exact ⟨_, List.mem_of_getElem? hpicked, rfl, hp⟩

end Listing

namespace HeatMap

variable {h h' : HeatMap} {i : Nat}

/-! ### The invariant -/

/-- At most one entry of the listing is picked out, and the elements that are highlighted are those
in which its expression fires. -/
structure HighlightFits (h : HeatMap) : Prop where
  one_picked : ∀ i j, h.listing.Picked i → h.listing.Picked j → i = j
  highlighted_iff : ∀ e ∈ h.scene.elements, e.marks.highlighted = true ↔
    ∃ entry ∈ h.listing, entry.highlighted = true ∧ entry.expression ∈ e.firing.expressions

/-- The highlight fits, and the index that the next one goes by is that of the scene. -/
structure Highlighting (h : HeatMap) : Prop extends HighlightFits h where
  index_eq : h.index = .ofScene h.scene

/-- Nothing is highlighted, neither an entry of the listing nor an element. -/
structure NothingHighlighted (h : HeatMap) : Prop where
  nonePicked : h.listing.NonePicked
  noneHighlighted : h.scene.NoneHighlighted

lemma NothingHighlighted.highlightFits (hn : h.NothingHighlighted) : h.HighlightFits where
  one_picked i _ hi := absurd hi (hn.nonePicked.not_picked i)
  highlighted_iff e he := by
    constructor
    · intro hhighlighted
      rw [hn.noneHighlighted e he] at hhighlighted
      cases hhighlighted
    · rintro ⟨entry, hentry, hpicked, -⟩
      rw [hn.nonePicked entry hentry] at hpicked
      cases hpicked

lemma nothingHighlighted_clearHighlight (h : HeatMap) : h.clearHighlight.NothingHighlighted where
  nonePicked := h.listing.nonePicked_cleared
  noneHighlighted := h.scene.noneHighlighted_clearHighlights

lemma nothingHighlighted_setListing (h : HeatMap) (expressions : List String) :
    (h.setListing expressions).NothingHighlighted where
  nonePicked := Listing.nonePicked_ofExpressions expressions
  noneHighlighted := h.scene.noneHighlighted_clearHighlights

lemma nothingHighlighted_draw (h : HeatMap) (firings : List Firing) :
    (h.draw firings).2.NothingHighlighted where
  nonePicked := h.unfreeze.listing.nonePicked_cleared
  noneHighlighted := (h.unfreeze.scene.noneHighlighted_clearHighlights).redraw

/-! ### Operations that leave the highlight alone -/

/-- The listing, the index and the highlight marks are the same; lock marks may differ. -/
structure SameHighlight (h h' : HeatMap) : Prop where
  scene_eq : ∃ f : Element → Marks,
    (∀ e, (f e).highlighted = e.marks.highlighted) ∧ h'.scene = h.scene.mark f
  index_eq : h'.index = h.index
  listing_eq : h'.listing = h.listing

lemma SameHighlight.of_scene_eq (hscene : h'.scene = h.scene) (hindex : h'.index = h.index)
    (hlisting : h'.listing = h.listing) : h.SameHighlight h' where
  scene_eq := ⟨Element.marks, fun _ => rfl, by rw [hscene, Scene.mark_marks]⟩
  index_eq := hindex
  listing_eq := hlisting

lemma sameHighlight_hover (h : HeatMap) (cell : ElementId) :
    h.SameHighlight (h.hover cell).2 := by
  simp only [hover]
  split
  · exact .of_scene_eq rfl rfl rfl
  · split_ifs
    · exact .of_scene_eq rfl rfl rfl
    · exact .of_scene_eq rfl rfl rfl

lemma sameHighlight_leave (h : HeatMap) (cell : ElementId) : h.SameHighlight (h.leave cell) := by
  rw [leave]
  split_ifs
  · exact .of_scene_eq rfl rfl rfl
  · exact .of_scene_eq rfl rfl rfl

lemma sameHighlight_click (h : HeatMap) (cell : ElementId) :
    h.SameHighlight (h.click cell).2 := by
  rw [click]
  split_ifs
  · exact ⟨DetailLock.mark_click_eq h.scene h.lock cell, rfl, rfl⟩
  · exact .of_scene_eq rfl rfl rfl

lemma sameHighlight_unfreeze (h : HeatMap) : h.SameHighlight h.unfreeze := by
  obtain ⟨f, detail, hf, heq⟩ := unfreeze_eq h
  rw [heq]
  exact ⟨⟨f, hf, rfl⟩, rfl, rfl⟩

namespace Highlighting

lemma sameHighlight (hh : h.Highlighting) (hsame : h.SameHighlight h') : h'.Highlighting := by
  obtain ⟨f, hf, hscene⟩ := hsame.scene_eq
  refine ⟨⟨?_, ?_⟩, ?_⟩
  · rw [hsame.listing_eq]
    exact hh.one_picked
  · rw [hsame.listing_eq, hscene, Scene.elements_mark, List.forall_mem_map]
    intro e he
    rw [hf]
    exact hh.highlighted_iff e he
  · rw [hsame.index_eq, hscene, ExpressionIndex.ofScene_mark]
    exact hh.index_eq

/-! ### Operations on the highlight -/

lemma blank (today : Date) (zone : Zone) : (HeatMap.blank today zone).Highlighting where
  toHighlightFits := NothingHighlighted.highlightFits
    ⟨by simp [HeatMap.blank, Listing.NonePicked],
      by simp [HeatMap.blank, Scene.NoneHighlighted, Scene.empty]⟩
  index_eq := rfl

lemma clearHighlight (hh : h.Highlighting) : h.clearHighlight.Highlighting where
  toHighlightFits := h.nothingHighlighted_clearHighlight.highlightFits
  index_eq := hh.index_eq.trans (ExpressionIndex.ofScene_mark ..).symm

lemma setListing (hh : h.Highlighting) (expressions : List String) :
    (h.setListing expressions).Highlighting where
  toHighlightFits := (h.nothingHighlighted_setListing expressions).highlightFits
  index_eq := hh.clearHighlight.index_eq

lemma draw (h : HeatMap) (firings : List Firing) : (h.draw firings).2.Highlighting where
  toHighlightFits := (h.nothingHighlighted_draw firings).highlightFits
  index_eq := rfl

end Highlighting

/-! ### Toggling -/

lemma toggleHighlight_of_length_le (hi : h.listing.length ≤ i) :
    h.toggleHighlight i = (false, h) := by
  rw [toggleHighlight, List.getElem?_eq_none hi]

lemma toggleHighlight_of_picked (hi : h.listing.Picked i) :
    h.toggleHighlight i = (false, h.clearHighlight) := by
  obtain ⟨entry, hentry, hpicked⟩ := hi
  simp only [toggleHighlight, hentry, hpicked, if_true]

lemma toggleHighlight_of_not_picked {entry : ListingEntry} (hentry : h.listing[i]? = some entry)
    (hi : ¬ h.listing.Picked i) :
    h.toggleHighlight i = (true, { h.clearHighlight with
      listing := h.listing.cleared.pick i
      scene := h.clearHighlight.scene.setHighlighted (h.index.cellsFor entry.expression) true }) := by
  have hpicked : ¬ entry.highlighted = true := fun hpicked => hi ⟨entry, hentry, hpicked⟩
  simp only [toggleHighlight, hentry, hpicked]
  rfl

/-- A place is outside the listing, or its entry is picked out, or it has one that is not. -/
lemma toggle_cases (h : HeatMap) (i : Nat) :
    h.listing.length ≤ i ∨ h.listing.Picked i ∨
      ∃ entry, h.listing[i]? = some entry ∧ ¬ h.listing.Picked i := by
  by_cases hpicked : h.listing.Picked i
  · exact Or.inr (Or.inl hpicked)
  · rcases Nat.lt_or_ge i h.listing.length with hi | hi
    · exact Or.inr (Or.inr ⟨_, List.getElem?_eq_getElem hi, hpicked⟩)
    · exact Or.inl hi

lemma Highlighting.toggleHighlight (hh : h.Highlighting) (i : Nat) :
    (h.toggleHighlight i).2.Highlighting := by
  rcases h.toggle_cases i with hi | hi | ⟨entry, hentry, hi⟩
  · rw [toggleHighlight_of_length_le hi]
    exact hh
  · rw [toggleHighlight_of_picked hi]
    exact hh.clearHighlight
  · rw [toggleHighlight_of_not_picked hentry hi]
    refine ⟨⟨?_, ?_⟩, ?_⟩
    · intro j k hj hk
      rw [(Listing.picked_pick_cleared_iff.1 hj).1, (Listing.picked_pick_cleared_iff.1 hk).1]
    · simp only [Scene.setHighlighted, Scene.elements_mark, List.forall_mem_map]
      intro e he
      rw [Listing.exists_mem_pick_cleared_iff hentry (· ∈ e.firing.expressions), hh.index_eq]
      obtain ⟨e₀, he₀, rfl⟩ := List.mem_map.1 he
      rw [← ExpressionIndex.id_mem_cellsFor_ofScene he₀]
      split_ifs with hmem
      · simp [hmem]
      · simp [hmem]
    · exact hh.clearHighlight.index_eq.trans (ExpressionIndex.ofScene_mark ..).symm

/-- The outcome of toggling tells whether the entry is now the one that is picked out. -/
lemma toggleHighlight_fst_iff (h : HeatMap) (i : Nat) :
    (h.toggleHighlight i).1 = true ↔
      ∀ j, (h.toggleHighlight i).2.listing.Picked j ↔ j = i := by
  rcases h.toggle_cases i with hi | hi | ⟨entry, hentry, hi⟩
  · rw [toggleHighlight_of_length_le hi]
    simp only [Bool.false_eq_true, false_iff]
    intro hpicked
    exact absurd ((hpicked i).2 rfl).lt_length (Nat.not_lt.2 hi)
  · rw [toggleHighlight_of_picked hi]
    simp only [Bool.false_eq_true, false_iff]
    intro hpicked
    exact h.nothingHighlighted_clearHighlight.nonePicked.not_picked i ((hpicked i).2 rfl)
  · rw [toggleHighlight_of_not_picked hentry hi]
    simp only [true_iff]
    intro j
    rw [Listing.picked_pick_cleared_iff, and_iff_left (List.getElem?_eq_some_iff.1 hentry).1]

/-! ### Runs -/

/-- Every operation keeps the highlight in order. -/
lemma Highlighting.act (hh : h.Highlighting) (op : Operation) : (h.act op).Highlighting := by
  cases op with
  | draw firings => exact .draw h firings
  | hover cell => exact hh.sameHighlight (h.sameHighlight_hover cell)
  | leave cell => exact hh.sameHighlight (h.sameHighlight_leave cell)
  | click cell => exact hh.sameHighlight (h.sameHighlight_click cell)
  | unfreeze => exact hh.sameHighlight h.sameHighlight_unfreeze
  | setListing expressions => exact hh.setListing expressions
  | toggleHighlight i => exact hh.toggleHighlight i
  | clearHighlight => exact hh.clearHighlight
  | setZone zone => exact hh.sameHighlight (.of_scene_eq rfl rfl rfl)
  | setReferenceDate text today => exact hh.sameHighlight (.of_scene_eq rfl rfl rfl)

/-- In every run, the highlight is in order. -/
lemma highlighting_after (today : Date) (zone : Zone) (ops : List Operation) :
    ((blank today zone).after ops).Highlighting :=
  after_invariant (.blank today zone) (fun _ op hh => hh.act op) ops

/-- Whatever is done to a heat map, the highlighted elements are those of the one entry that is
picked out. Toggling an entry picks it out as the only one and says so, unless it was picked out,
when nothing is highlighted any more, or there is no such entry, when nothing changes. -/
theorem highlight_fits_always (today : Date) (zone : Zone) (ops : List Operation) :
    let h := (blank today zone).after ops
    h.HighlightFits ∧ ∀ i,
      ((h.toggleHighlight i).1 = true ↔
        ∀ j, (h.toggleHighlight i).2.listing.Picked j ↔ j = i) ∧
      (h.listing.Picked i → (h.toggleHighlight i).2.NothingHighlighted) ∧
      (h.listing.length ≤ i → (h.toggleHighlight i).2 = h) := by
  intro h
  refine ⟨(highlighting_after today zone ops).toHighlightFits, fun i => ⟨?_, ?_, ?_⟩⟩
  · exact toggleHighlight_fst_iff h i
  · intro hi
    rw [toggleHighlight_of_picked hi]
    exact nothingHighlighted_clearHighlight h
  · intro hi
    rw [toggleHighlight_of_length_le hi]

/-- An expression is listed twice and named twice by the one cell in which it fires. -/
theorem highlight_fits_again :
    let h := (blank .unixEpoch .utc).after [.setListing ["a", "b", "a"],
      .draw [{ (default : Firing) with expressions := ["a", "a"] },
        { (default : Firing) with key := "00:01" }], .toggleHighlight 2]
    h.listing.Picked 2 ∧ h.scene.idsWhere (·.marks.highlighted) = [0] ∧
      (h.toggleHighlight 2).2.NothingHighlighted ∧
      h.listing.length ≤ 3 ∧ (h.toggleHighlight 3).2 = h := by
  intro h
  have hpicked : h.listing.Picked 2 := ⟨{ expression := "a", highlighted := true }, by decide +kernel, rfl⟩
  have hids : h.scene.idsWhere (·.marks.highlighted) = [0] := by
    simp (disch := decide) only [h, after, List.foldl, act, draw, busiestFirst_eq_self]
    decide +kernel
  have hlength : h.listing.length ≤ 3 := by decide +kernel
  obtain ⟨-, htoggle⟩ := highlight_fits_always .unixEpoch .utc [.setListing ["a", "b", "a"],
    .draw [{ (default : Firing) with expressions := ["a", "a"] },
      { (default : Firing) with key := "00:01" }], .toggleHighlight 2]
  exact ⟨hpicked, hids, (htoggle 2).2.1 hpicked, hlength, (htoggle 3).2.2 hlength⟩

end HeatMap

end CronHeatMap
