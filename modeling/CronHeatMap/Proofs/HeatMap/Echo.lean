import CronHeatMap.Proofs.Firing
import CronHeatMap.Proofs.HeatMap.Drawing
import CronHeatMap.Proofs.Query.Lines
import CronHeatMap.Proofs.Text.Fragments

/-!
# Rows that echo the query

The listing has the lines of the query, without the blanks around them, and a row has the fragments
of its cell as they are. If the carriage returns of a text stand before line feeds only, then it has
the same of both but for blanks. The firing of a row that gives the text back then fires for every
entry of the listing, so that its cell is highlighted whichever entry is picked out
(`echoed_lines_marked`).
-/

namespace CronHeatMap

namespace Text

variable {cs : List Char}

/-- What is empty is not listed. -/
lemma filter_trim_filter (ls : List (List Char)) :
    ((ls.filter (!·.isEmpty)).map trim).filter (!·.isEmpty) = (ls.map trim).filter (!·.isEmpty) := by
  have hne : ∀ l : List Char, trim l ≠ [] → l ≠ [] := by
    rintro l hl rfl
    exact hl rfl
  rw [List.filter_map, List.filter_map, List.filter_filter]
  congr 1
  apply List.filter_congr
  intro l _
  simpa using hne l

/-- The fragments list the same as the lines. -/
lemma filter_trim_fragments (h : ReturnsPaired cs) :
    ((fragments cs).map trim).filter (!·.isEmpty) = listed cs := by
  rw [fragments_eq_filter_lines h, filter_trim_filter, filter_trim_lines]

/-- Without blanks around the lines, the fragments are what is listed. -/
lemma fragments_eq_listed (h : ReturnsPaired cs) (hlines : ∀ line ∈ lines cs, trim line = line) :
    fragments cs = listed cs := by
  have htrim : (lines cs).map trim = lines cs := by
    rw [List.map_congr_left hlines, List.map_id']
  rw [← filter_trim_lines, htrim, fragments_eq_filter_lines h]

end Text

/-- The expressions of a cell, without the blanks around them. -/
lemma filter_trimmed_splitExpressions (cell : String) :
    ((splitExpressions cell).map Text.trimmed).filter (· ≠ "") =
      (((Text.fragments cell.toList).map Text.trim).filter (!·.isEmpty)).map String.ofList := by
  have htrim : Text.trimmed ∘ String.ofList = String.ofList ∘ Text.trim := by
    funext cs
    simp [Text.trimmed]
  have hempty : ∀ cs : List Char, decide (String.ofList cs ≠ "") = !cs.isEmpty := by
    intro cs
    cases cs <;> simp
  rw [splitExpressions, List.map_map, htrim, ← List.map_map, List.filter_map]
  congr 1
  exact List.filter_congr fun cs _ => hempty cs

/-- Picking out an entry changes no expression of the listing. -/
lemma Listing.map_expression_pick_cleared (l : Listing) (i : Nat) :
    (l.cleared.pick i).map ListingEntry.expression = l.map ListingEntry.expression := by
  apply List.ext_getElem?
  intro j
  rw [List.getElem?_map, getElem?_pick_cleared, List.getElem?_map, Option.map_map]
  rfl

namespace HeatMap

variable {h : HeatMap} {e : Element} {i : Nat}

/-- The expressions that are listed. -/
def listed (h : HeatMap) : List String := h.listing.map ListingEntry.expression

/-- The element is highlighted by every entry of the listing: while one is picked out, and as soon as
another one is. -/
structure MarkedByEach (h : HeatMap) (e : Element) : Prop where
  highlighted_iff : e.marks.highlighted = true ↔ ∃ i, h.listing.Picked i
  toggle : ∀ i < h.listing.length, ¬ h.listing.Picked i →
    (h.toggleHighlight i).2.listing.Picked i ∧
      ∃ e' ∈ (h.toggleHighlight i).2.scene.elements,
        e'.id = e.id ∧ e'.firing = e.firing ∧ e'.marks.highlighted = true

/-- An element in which all listed expressions fire is highlighted whichever is picked out. -/
lemma Highlighting.highlighted_iff_exists_picked (hh : h.Highlighting) (he : e ∈ h.scene.elements)
    (hfires : ∀ x ∈ h.listed, x ∈ e.firing.expressions) :
    e.marks.highlighted = true ↔ ∃ i, h.listing.Picked i := by
  rw [hh.highlighted_iff e he]
  constructor
  · rintro ⟨entry, hentry, hpicked, -⟩
    obtain ⟨i, hi⟩ := List.mem_iff_getElem?.1 hentry
    exact ⟨i, entry, hi, hpicked⟩
  · rintro ⟨i, entry, hi, hpicked⟩
    have hentry : entry ∈ h.listing := List.mem_of_getElem? hi
    exact ⟨entry, hentry, hpicked, hfires _ (List.mem_map_of_mem hentry)⟩

/-- Toggling an entry that is not picked out picks it out, in the same listing and on the same
elements. -/
lemma toggleHighlight_picks (hi : i < h.listing.length) (hpicked : ¬ h.listing.Picked i) :
    (h.toggleHighlight i).2.listing.Picked i ∧ (h.toggleHighlight i).2.listed = h.listed ∧
      ∃ f, (h.toggleHighlight i).2.scene = h.scene.mark f := by
  rw [toggleHighlight_of_not_picked (List.getElem?_eq_getElem hi) hpicked]
  exact ⟨Listing.picked_pick_cleared_iff.2 ⟨rfl, hi⟩, Listing.map_expression_pick_cleared ..,
    _, Scene.mark_mark ..⟩

lemma Highlighting.markedByEach (hh : h.Highlighting) (he : e ∈ h.scene.elements)
    (hfires : ∀ x ∈ h.listed, x ∈ e.firing.expressions) : h.MarkedByEach e where
  highlighted_iff := hh.highlighted_iff_exists_picked he hfires
  toggle := by
    intro i hi hpicked
    obtain ⟨hnow, hlisted, f, hscene⟩ := toggleHighlight_picks hi hpicked
    have hmem : { e with marks := f e } ∈ (h.toggleHighlight i).2.scene.elements := by
      rw [hscene, Scene.elements_mark]
      exact List.mem_map_of_mem he
    refine ⟨hnow, _, hmem, rfl, rfl, ?_⟩
    exact ((hh.toggleHighlight i).highlighted_iff_exists_picked hmem (hlisted ▸ hfires)).2 ⟨i, hnow⟩

/-- If the keys are distinct, each firing has a cell. -/
lemma exists_firing_eq_draw {fs : List Firing} {f : Firing} (hkeys : (fs.map Firing.key).Nodup)
    (hf : f ∈ fs) (h : HeatMap) : ∃ e ∈ (h.draw fs).2.scene.elements, e.firing = f :=
  List.mem_map.1 ((firings_draw_perm_of_nodup hkeys h).mem_iff.2 hf)

/-- If the carriage returns of a query stand before line feeds only, then its lines are the
expressions of a cell with this text, without the blanks around them. If there are no such blanks,
then the firing of a row with this text has the expressions that are listed: wherever they are
listed, the element that shows this firing is highlighted by every entry. There is such an element
after a draw in which no two firings have the same key. -/
theorem echoed_lines_marked {q : Query} (hq : Text.ReturnsPaired q.expressions.toList) :
    q.lines = ((splitExpressions q.expressions).map Text.trimmed).filter (· ≠ "") ∧
      ∀ (row : Row) (f : Firing), row.expressions = some q.expressions → row.firing? = some f →
        (∀ line ∈ Text.lines q.expressions.toList, Text.trim line = line) →
        f.expressions = q.lines ∧
          (∀ today zone ops, ((blank today zone).after ops).listed = q.lines →
            ∀ e ∈ ((blank today zone).after ops).scene.elements, e.firing = f →
              ((blank today zone).after ops).MarkedByEach e) ∧
          ∀ (h : HeatMap) (fs : List Firing), f ∈ fs → (fs.map Firing.key).Nodup →
            ((h.setListing q.lines).draw fs).2.listed = q.lines ∧
              ∃ e ∈ ((h.setListing q.lines).draw fs).2.scene.elements, e.firing = f := by
  constructor
  · rw [filter_trimmed_splitExpressions, Text.filter_trim_fragments hq, Query.lines_eq]
  intro row f hrow hfiring hlines
  have hexpressions : f.expressions = q.lines := by
    obtain ⟨-, -, -, -, ⟨cell, hcell, hsplit⟩, -⟩ := Row.firing?_eq_some_iff.1 hfiring
    obtain ⟨hcell, -⟩ := present?_eq_some_iff.1 hcell
    obtain rfl : cell = q.expressions := Option.some_inj.1 (hcell.symm.trans hrow)
    rw [← hsplit, splitExpressions, Text.fragments_eq_listed hq hlines, Query.lines_eq]
  refine ⟨hexpressions, ?_, ?_⟩
  · rintro today zone ops hlisted e he rfl
    apply (highlighting_after today zone ops).markedByEach he
    intro x hx
    rw [hexpressions, ← hlisted]
    exact hx
  · intro h fs hf hkeys
    refine ⟨?_, exists_firing_eq_draw hkeys hf _⟩
    rw [listed, listing_draw, setListing, Listing.cleared_ofExpressions, Listing.ofExpressions,
      List.map_map]
    exact List.map_id _

/-- Both line endings, an empty line and a line that comes twice. The lock is at the only cell. -/
theorem echoed_lines_marked_twice :
    let q : Query := { expressions := "a b\r\nc\n\nc" }
    let row : Row :=
      { key := "k", hour := "1", minute := "2", count := "3", expressions := q.expressions }
    ∃ f, row.firing? = some f ∧ f.expressions = ["a b", "c", "c"] ∧ q.lines = f.expressions ∧
      let h := (blank .unixEpoch .utc).after
        [.setListing q.lines, .draw [f], .toggleHighlight 1, .click 0]
      ∃ e ∈ h.scene.elements, h.listing.Picked 1 ∧ e.marks.highlighted = true ∧
        ∃ e' ∈ (h.toggleHighlight 2).2.scene.elements, e'.marks.highlighted = true := by
  intro q row
  let f : Firing :=
    { key := "k", hour := 1, minute := 2, count := 3, expressions := ["a b", "c", "c"] }
  have hq : Text.ReturnsPaired q.expressions.toList := by decide
  have hfiring : row.firing? = some f := by decide +kernel
  have hlines : ∀ line ∈ Text.lines q.expressions.toList, Text.trim line = line := by decide
  obtain ⟨-, hrow⟩ := echoed_lines_marked hq
  obtain ⟨hexpressions, hmarked, -⟩ := hrow row f rfl hfiring hlines
  refine ⟨f, hfiring, rfl, hexpressions.symm, ?_⟩
  let ops : List Operation := [.setListing q.lines, .draw [f], .toggleHighlight 1, .click 0]
  intro h
  have hlisting : h.listing = [⟨"a b", false⟩, ⟨"c", true⟩, ⟨"c", false⟩] := by decide +kernel
  have hfirings : h.scene.elements.map Element.firing = [f] := by decide +kernel
  obtain ⟨e, he, hshown⟩ : ∃ e ∈ h.scene.elements, e.firing = f := by
    rw [← List.mem_map, hfirings]
    exact List.mem_cons_self
  have hlisted : h.listed = q.lines := by
    rw [listed, hlisting]
    exact hexpressions
  have hpicked : h.listing.Picked 1 := by
    rw [hlisting]
    exact ⟨_, rfl, rfl⟩
  have hnext : ¬ h.listing.Picked 2 := by
    rw [hlisting]
    rintro ⟨entry, ⟨⟩, ⟨⟩⟩
  have hh : h = (blank .unixEpoch .utc).after ops := rfl
  have hmark := hmarked .unixEpoch .utc ops
  rw [← hh] at hmark
  obtain ⟨hhighlighted, htoggle⟩ := hmark hlisted e he hshown
  obtain ⟨-, e', he', -, -, hmarks⟩ := htoggle 2 (by rw [hlisting]; decide) hnext
  exact ⟨e, he, hpicked, hhighlighted.2 ⟨1, hpicked⟩, e', he', hmarks⟩

end HeatMap

end CronHeatMap
