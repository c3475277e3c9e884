import CronHeatMap.Proofs.HeatMap.Drawing
import CronHeatMap.Proofs.HeatMap.Run
import CronHeatMap.Proofs.Scene.Place
import CronHeatMap.Proofs.Table

/-!
# Drawing what was read from a table

A draw takes firings as they are: it does not check that there is a place on the grid for them, that
they have expressions or that anything happens at all. What is read from a table has passed these
checks before. Hence each cell that enters stands in a band that there is, each cell is found under
its expressions, and no line of the report is about nothing (`parsed_firings_fit`).
-/

namespace CronHeatMap.HeatMap

variable {h : HeatMap} {fs : List Firing} {e : Element}

/-- A cell shows one of the firings that were drawn. -/
lemma firing_mem_of_mem_draw (he : e ∈ (h.draw fs).2.scene.elements) : e.firing ∈ fs := by
  rw [scene_draw] at he
  exact (busiestFirst_perm fs).subset (List.mem_of_find?_eq_some (Scene.find?_of_mem_redraw he))

/-- A cell that enters with a draw stands where its firing belongs. -/
lemma standsAt_of_entered (hgrid : ∀ f ∈ fs, f.OnGrid) (he : e ∈ (h.draw fs).2.scene.elements)
    (hentered : e.id ∈ (h.draw fs).1.reconciliation.entered) : e.StandsAt e.firing := by
  have hfiring : e.firing.OnGrid := hgrid e.firing (firing_mem_of_mem_draw he)
  have hseat : e.seat = e.firing.seat := Scene.seat_eq_of_entered he hentered
  exact (Element.standsAt_iff hfiring hseat hfiring).2 rfl

/-- A cell is found under each of its expressions. -/
lemma id_mem_cellsFor_draw (he : e ∈ (h.draw fs).2.scene.elements) (x : String) :
    e.id ∈ (h.draw fs).2.index.cellsFor x ↔ x ∈ e.firing.expressions := by
  rw [index_draw]
  exact ExpressionIndex.id_mem_cellsFor_ofScene he x

/-- A line of the report is about the count of one of the firings. -/
lemma exists_of_mem_contention_draw {l : ContentionLine} (hl : l ∈ (h.draw fs).2.contention) :
    ∃ f ∈ fs, f.count = l.count := by
  rw [contention_draw] at hl
  obtain ⟨f, hf, hcount⟩ := Contention.exists_of_mem_summarize hl
  exact ⟨f, (busiestFirst_perm fs).subset hf, hcount⟩

/-- The firings that are read from a table are well-formed. On whichever heat map they are drawn, the
cells that enter stand where their firings belong, the index has each cell under some expression that
fires there, and every line of the report is about at least one event. -/
theorem parsed_firings_fit {text : String} (hparse : Table.parse text = .ok fs) (h : HeatMap) :
    (∀ f ∈ fs, f.WellFormed) ∧
      (∀ e ∈ (h.draw fs).2.scene.elements,
        e.id ∈ (h.draw fs).1.reconciliation.entered → e.StandsAt e.firing) ∧
      (∀ e ∈ (h.draw fs).2.scene.elements,
        ∃ x ∈ e.firing.expressions, e.id ∈ (h.draw fs).2.index.cellsFor x) ∧
      ∀ l ∈ (h.draw fs).2.contention, 0 < l.count := by
  have hfs : ∀ f ∈ fs, f.WellFormed := Table.wellFormed_of_parse hparse
  refine ⟨hfs, ?_, ?_, ?_⟩
  · intro e he hentered
    exact standsAt_of_entered (fun f hf => (hfs f hf).onGrid) he hentered
  · intro e he
    have hne := (hfs e.firing (firing_mem_of_mem_draw he)).expressions_ne_nil
    obtain ⟨x, hx⟩ := List.exists_mem_of_ne_nil _ hne
    exact ⟨x, hx, (id_mem_cellsFor_draw he x).2 hx⟩
  · intro l hl
    obtain ⟨f, hf, hcount⟩ := exists_of_mem_contention_draw hl
    rw [← hcount]
    exact (hfs f hf).count_pos

/-- Of three rows, one is off the grid and dropped. The key of another one is on display already, so
that only the third enters; the lock is at the cell that stays. -/
theorem parsed_firings_fit_after_use :
    let text := "count,key,h,m,expressions\r\n 2,a,+9,05,\"x\r\ny\"\n1,b,24,0,x\n4,c,0,59,z\n"
    let fs : List Firing :=
      [{ key := "a", hour := 9, minute := 5, count := 2, expressions := ["x", "y"] },
        { key := "c", hour := 0, minute := 59, count := 4, expressions := ["z"] }]
    let h := (blank .unixEpoch .utc).after
      [.draw [{ (default : Firing) with key := "c" }], .click 0]
    Table.parse text = .ok fs ∧ (h.draw fs).1.reconciliation.entered = [1] ∧
      (∃ e ∈ (h.draw fs).2.scene.elements, e.id = 1 ∧ e.StandsAt e.firing ∧
        ∃ x ∈ e.firing.expressions, 1 ∈ (h.draw fs).2.index.cellsFor x) ∧
      (h.draw fs).2.contention.length = 2 ∧ ∀ l ∈ (h.draw fs).2.contention, 0 < l.count := by
  intro text fs h
  have hparse : Table.parse text = .ok fs := by decide +kernel
  have hordered : busiestFirst fs = fs.reverse := by
    simp [fs, busiestFirst, List.mergeSort]
  obtain ⟨hentered, hids, hlines⟩ :
      (h.draw fs).1.reconciliation.entered = [1] ∧
        (h.draw fs).2.scene.elements.map Element.id = [0, 1] ∧
        (h.draw fs).2.contention.length = 2 := by
    simp only [draw, hordered]
    decide +kernel
  obtain ⟨-, hstands, hindex, hcount⟩ := parsed_firings_fit hparse h
  obtain ⟨e, he, hid⟩ : ∃ e ∈ (h.draw fs).2.scene.elements, e.id = 1 := by
    rw [← List.mem_map, hids]
    decide
  have hstandsAt : e.StandsAt e.firing := hstands e he (by rw [hentered, hid]; decide)
  exact ⟨hparse, hentered, ⟨e, he, hid, hstandsAt, hid ▸ hindex e he⟩, hlines, hcount⟩

end CronHeatMap.HeatMap
