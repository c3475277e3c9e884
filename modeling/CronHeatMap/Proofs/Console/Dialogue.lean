import CronHeatMap.Console.Dialogue
import CronHeatMap.Proofs.Console.Picture
import CronHeatMap.Proofs.HeatMap.Panel
import CronHeatMap.Table

/-!
# The painted cell and the one that commands reach

Pointing and clicking reach the first cell of a time, and the grid paints the last one. These are
the same exactly if there are no others (`painted_fits_reached`); if there are, a click can lock a
cell that is not painted, so that no lock is shown (`hidden_lock`).
-/

namespace CronHeatMap

namespace HeatMap

variable {h : HeatMap} {e : Element} {seat : Seat}

/-- The pointer is at the cell that it has come to. -/
lemma hovered_hover (he : h.scene.at? seat = some e) : (h.hover e.id).2.hovered = some e.id := by
  have hfound : h.scene.byId? e.id = some e :=
    Scene.byId?_eq_some_iff.2 ⟨List.mem_of_find?_eq_some he, rfl⟩
  rw [hover, hfound]
  dsimp only
  split_ifs <;> rfl

/-- A click holds the panel on a cell on which it was not held, and marks cells. -/
lemma click_of_not_held (he : h.scene.at? seat = some e) (hfree : h.lock ≠ .frozen e.id) :
    (h.click e.id).2.lock = .frozen e.id ∧ ∃ f, (h.click e.id).2.scene = h.scene.mark f := by
  have hcell : h.scene.Contains e.id := ⟨e, List.mem_of_find?_eq_some he, rfl⟩
  have hlock : h.lock.cell? ≠ some e.id := by
    intro hcell?
    apply hfree
    cases hlock : h.lock with
    | unfrozen => simp [hlock, DetailLock.cell?] at hcell?
    | frozen cell =>
      rw [hlock, DetailLock.cell?, Option.some_inj] at hcell?
      rw [hcell?]
  obtain ⟨f, -, hscene⟩ := DetailLock.mark_click_eq h.scene h.lock e.id
  rw [click, if_pos hcell]
  refine ⟨?_, f, hscene⟩
  show (h.lock.click e.id).lock = .frozen e.id
  rw [DetailLock.click, if_neg hlock]
  rfl

end HeatMap

namespace Dialogue

open Picture

variable {s : Session} {h : HeatMap} {seat : Seat} {e : Element}

/-- At the place where the panel is held on the cell that commands reach, a lock is painted exactly
if no other cell is there. -/
lemma glyph_paintedAt?_iff_of_held (hs : h.Settled) (he : h.scene.at? seat = some e)
    (hheld : h.lock = .frozen e.id) :
    glyph (paintedAt? h.scene seat) = lockedGlyph ↔ h.scene.AtMostOneAt seat := by
  rw [glyph_eq_lockedGlyph_iff, ← paintedAt?_eq_at?_iff, he]
  constructor
  · rintro ⟨x, hx, hlocked⟩
    have hmem : x ∈ h.scene.elements := List.mem_reverse.1 (List.mem_of_find?_eq_some hx)
    have hmem' : e ∈ h.scene.elements := List.mem_of_find?_eq_some he
    have hid : e.id = x.id := by
      simpa [hheld, DetailLock.cell?] using (hs.lockedAt x hmem).1 hlocked
    rw [hx, List.inj_on_of_nodup_map h.scene.ids_nodup hmem hmem' hid.symm]
  · intro hpainted
    have hmem : e ∈ h.scene.elements := List.mem_of_find?_eq_some he
    exact ⟨e, hpainted, (hs.lockedAt e hmem).2 (by rw [hheld, DetailLock.cell?])⟩

/-- A click holds the panel on the cell that it reaches, and then a lock is shown at the place
exactly if no other cell is there. -/
lemma click_shows_lock_iff (hs : s.view.Settled) (today : Date) (hhour : seat.hour < hoursPerDay)
    (hminute : seat.minute < minutesPerHour) (he : s.view.scene.at? seat = some e)
    (hfree : s.view.lock ≠ .frozen e.id) :
    ∃ view screen g, view.lock = .frozen e.id ∧
      carryOut today s (.click seat) = .done { session := { s with view }, screen } ∧
      shownAt? screen seat = some g ∧
      (g.char = lockedGlyph ↔ s.view.scene.AtMostOneAt seat) := by
  obtain ⟨hlock, f, hscene⟩ := HeatMap.click_of_not_held he hfree
  have he' : (s.view.click e.id).2.scene.at? seat = some { e with marks := f e } := by
    rw [hscene, Scene.at?_mark, he, Option.map_some]
  have hclick : carryOut today s (.click seat) =
      .done { session := { s with view := (s.view.click e.id).2 }
              screen := grid (s.view.click e.id).2 ++
                Picture.detail (s.view.click e.id).2.detail } := by
    rw [carryOut, onCell, he]
  refine ⟨_, _, _, hlock, hclick, shownAt?_grid _ _ hhour hminute, ?_⟩
  rw [← Scene.atMostOneAt_mark (f := f), ← hscene]
  exact glyph_paintedAt?_iff_of_held (hs.click e.id) he' hlock

/-- How what is painted at a place of the grid fits what commands reach there. -/
structure PlaceFits (s : Session) (seat : Seat) : Prop where
  /-- The grid shows what is painted. -/
  shown : shownAt? (grid s.view) seat = some (placeGlyph (paintedAt? s.view.scene seat))
  /-- The place is not shown as empty exactly if something is reached there. -/
  some_iff : glyph (paintedAt? s.view.scene seat) ≠ emptyGlyph ↔ (s.view.scene.at? seat).isSome
  /-- What is painted is what is reached exactly if nothing else is there. -/
  same_iff : paintedAt? s.view.scene seat = s.view.scene.at? seat ↔ s.view.scene.AtMostOneAt seat
  /-- The pointer comes to what is reached. -/
  hover : ∀ today e, s.view.scene.at? seat = some e → ∃ view, view.hovered = some e.id ∧
    carryOut today s (.hover seat) =
      .done { session := { s with view }, screen := Picture.detail view.detail }
  /-- A click holds the panel on what is reached, and then a lock is shown at the place exactly if
  nothing else is there. -/
  click : ∀ today e, s.view.scene.at? seat = some e → s.view.lock ≠ .frozen e.id →
    ∃ view screen g, view.lock = .frozen e.id ∧
      carryOut today s (.click seat) = .done { session := { s with view }, screen } ∧
      shownAt? screen seat = some g ∧ (g.char = lockedGlyph ↔ s.view.scene.AtMostOneAt seat)
  /-- As long as the panel is held there, a lock is shown exactly if nothing else is there. -/
  held : ∀ e, s.view.scene.at? seat = some e → s.view.lock = .frozen e.id →
    ∃ g, shownAt? (grid s.view) seat = some g ∧
      (g.char = lockedGlyph ↔ s.view.scene.AtMostOneAt seat)

/-- Whatever has been done to a heat map, commands reach the cell that is painted at a place exactly
if no other cell is there. -/
theorem painted_fits_reached (day : Date) (zone : Zone) (ops : List HeatMap.Operation)
    (hview : s.view = (HeatMap.blank day zone).after ops) (hhour : seat.hour < hoursPerDay)
    (hminute : seat.minute < minutesPerHour) : PlaceFits s seat := by
  have hs : s.view.Settled := hview ▸ HeatMap.settled_after day zone ops
  have hshown : shownAt? (grid s.view) seat = some (placeGlyph (paintedAt? s.view.scene seat)) := by
    rw [← shownAt?_grid s.view [] hhour hminute, List.append_nil]
  constructor
  case shown => exact hshown
  case some_iff =>
    rw [ne_eq, glyph_eq_emptyGlyph_iff, ← isSome_paintedAt?, Option.isSome_iff_ne_none]
  case same_iff => exact paintedAt?_eq_at?_iff
  case hover =>
    intro today e he
    refine ⟨_, HeatMap.hovered_hover he, ?_⟩
    rw [carryOut, onCell, he]
  case click =>
    intro today e he hfree
    exact click_shows_lock_iff hs today hhour hminute he hfree
  case held =>
    intro e he hheld
    exact ⟨_, hshown, glyph_paintedAt?_iff_of_held hs he hheld⟩

/-- A cell that is alone at its time, with the panel held on it. -/
theorem painted_fits_reached_held :
    let ops := [.draw [{ key := "a", hour := 1, minute := 2, count := 1, expressions := ["x"] }],
      .click 0]
    let s := { Session.new .unixEpoch .utc with view := (HeatMap.blank .unixEpoch .utc).after ops }
    s.view.lock = .frozen 0 ∧ (s.view.scene.at? { hour := 1, minute := 2 }).isSome ∧
      s.view.scene.AtMostOneAt { hour := 1, minute := 2 } ∧
      PlaceFits s { hour := 1, minute := 2 } :=
  ⟨by decide +kernel, by decide +kernel, by decide +kernel,
    painted_fits_reached .unixEpoch .utc _ rfl (by decide) (by decide)⟩

/-- Of two cells of one time, a click locks the one that is not painted. -/
theorem hidden_lock :
    let fs := [{ key := "a", hour := 0, minute := 0, count := 1, expressions := ["x"] },
      { key := "b", hour := 0, minute := 0, count := 1, expressions := ["x"] }]
    let s := { Session.new .unixEpoch .utc with
      view := (HeatMap.blank .unixEpoch .utc).after [.draw fs] }
    Table.parse "key,h,m,count,expressions\na,0,0,1,x\nb,0,0,1,x\n" = .ok fs ∧
      (s.view.scene.at? { hour := 0, minute := 0 }).map Element.id = some 0 ∧
      (paintedAt? s.view.scene { hour := 0, minute := 0 }).map Element.id = some 1 ∧
      ∃ view screen g, carryOut .unixEpoch s (.click { hour := 0, minute := 0 }) =
          .done { session := { s with view }, screen } ∧
        view.lock = .frozen 0 ∧ shownAt? screen { hour := 0, minute := 0 } = some g ∧
        g.char ≠ lockedGlyph := by
  intro fs s
  have hs : s.view.Settled := HeatMap.settled_after .unixEpoch .utc [.draw fs]
  have hordered : HeatMap.busiestFirst fs = fs := HeatMap.busiestFirst_eq_self (by decide)
  have hscene : s.view.scene = Scene.empty.redraw fs (.select fs) := by
    show ((HeatMap.blank .unixEpoch .utc).draw fs).2.scene = _
    rw [HeatMap.scene_draw, hordered]
    rfl
  have hreached : (s.view.scene.at? { hour := 0, minute := 0 }).map Element.id = some 0 := by
    rw [hscene]
    decide +kernel
  have hpainted : (paintedAt? s.view.scene { hour := 0, minute := 0 }).map Element.id = some 1 := by
    rw [hscene]
    decide +kernel
  obtain ⟨e, he, hid⟩ := Option.map_eq_some_iff.1 hreached
  have hfree : s.view.lock ≠ .frozen e.id := by
    rw [show s.view.lock = .unfrozen from HeatMap.lock_draw _ fs]
    exact DetailLock.noConfusion
  have hshared : ¬ s.view.scene.AtMostOneAt { hour := 0, minute := 0 } := by
    rw [hscene]
    decide +kernel
  obtain ⟨view, screen, g, hlock, hclick, hshown, hglyph⟩ :=
    click_shows_lock_iff hs .unixEpoch (by decide) (by decide) he hfree
  exact ⟨by decide +kernel, hreached, hpainted, view, screen, g, hclick, hid ▸ hlock, hshown,
    fun hg => hshared (hglyph.1 hg)⟩

end Dialogue

end CronHeatMap
