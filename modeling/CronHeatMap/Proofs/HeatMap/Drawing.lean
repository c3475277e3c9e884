import CronHeatMap.Proofs.Contention
import CronHeatMap.Proofs.HeatMap.Highlight

/-!
# What a draw puts on display

A draw reports on all the firings that it is given and chooses the scale for all of them, while the
scene has one cell for each key. If no two firings have the same key, the report and the scale are
those of the cells (`draw_describes_cells`), and nothing on display depends on the order of the
firings or on what was drawn before (`draw_forgets`).
-/

namespace CronHeatMap

variable {fs gs : List Firing}

/-- Among distinct keys, a key finds the same firing in any order. -/
lemma find?_perm (hperm : fs.Perm gs) (hkeys : (fs.map Firing.key).Nodup) (key : String) :
    fs.find? (·.key = key) = gs.find? (·.key = key) := by
  have hkeys' : (gs.map Firing.key).Nodup := (hperm.map Firing.key).nodup_iff.1 hkeys
  apply Option.ext
  intro f
  rw [find?_eq_some_iff_of_nodup hkeys, find?_eq_some_iff_of_nodup hkeys', hperm.mem_iff]

namespace HeatMap

variable {h : HeatMap}

/-! ### Firings in order -/

lemma busiestFirst_perm (fs : List Firing) : (busiestFirst fs).Perm fs :=
  List.mergeSort_perm ..

lemma descending_busiestFirst (fs : List Firing) : Contention.Descending (busiestFirst fs) := by
  have hsorted : (busiestFirst fs).Pairwise fun f g => decide (g.count ≤ f.count) = true := by
    apply List.pairwise_mergeSort
    · intro f g k hfg hgk
      rw [decide_eq_true_eq] at hfg hgk ⊢
      exact hgk.trans hfg
    · intro f g
      rw [Bool.or_eq_true, decide_eq_true_eq, decide_eq_true_eq]
      exact Nat.le_total g.count f.count
  exact hsorted.imp of_decide_eq_true

/-- The report does not depend on the order in which firings are given. -/
lemma summarize_busiestFirst_perm (hperm : fs.Perm gs) :
    Contention.summarize (busiestFirst fs) = Contention.summarize (busiestFirst gs) := by
  have hsorted : (busiestFirst fs).Perm (busiestFirst gs) :=
    (busiestFirst_perm fs).trans (hperm.trans (busiestFirst_perm gs).symm)
  rw [Contention.summarize_of_descending (descending_busiestFirst fs),
    Contention.summarize_of_descending (descending_busiestFirst gs),
    Contention.countsDown_perm hsorted]
  apply List.map_congr_left
  intro c _
  exact Contention.line_perm c (hsorted.filter _)

/-! ### The cells -/

/-- The firings that the cells show, in document order. -/
def firings (h : HeatMap) : List Firing := h.scene.elements.map Element.firing

/-- What the cell with a key shows, and its fill. -/
def shown? (h : HeatMap) (key : String) : Option (Firing × Rgb) :=
  (h.scene.byKey? key).map fun e => (e.firing, e.fill)

/-- The keys of the cells that the index has for an expression. A number without a cell would have
no key. -/
def cellKeys (h : HeatMap) (x : String) : List (Option String) :=
  (h.index.cellsFor x).map fun id => (h.scene.byId? id).map Element.key

lemma shown?_eq_some_iff {key : String} {f : Firing} {fill : Rgb} :
    h.shown? key = some (f, fill) ↔
      ∃ e ∈ h.scene.elements, e.key = key ∧ e.firing = f ∧ e.fill = fill := by
  simp only [shown?, Option.map_eq_some_iff, Scene.byKey?_eq_some_iff, Prod.mk.injEq, and_assoc]

/-- With the index of the scene, the cells of an expression are those that show it. -/
lemma mem_cellKeys_iff (hindex : h.index = .ofScene h.scene) {x : String} {key? : Option String} :
    key? ∈ h.cellKeys x ↔
      ∃ key f fill, key? = some key ∧ h.shown? key = some (f, fill) ∧ x ∈ f.expressions := by
  rw [cellKeys, hindex, List.mem_map]
  constructor
  · rintro ⟨id, hid, rfl⟩
    rw [ExpressionIndex.cellsFor_ofScene] at hid
    obtain ⟨e, he, rfl⟩ := List.mem_map.1 hid
    obtain ⟨he, hfires⟩ := List.mem_filter.1 he
    refine ⟨e.key, e.firing, e.fill, ?_, shown?_eq_some_iff.2 ⟨e, he, rfl, rfl, rfl⟩,
      by simpa using hfires⟩
    rw [Scene.byId?_eq_some_iff.2 ⟨he, rfl⟩, Option.map_some]
  · rintro ⟨key, f, fill, rfl, hshown, hfires⟩
    obtain ⟨e, he, rfl, rfl, rfl⟩ := shown?_eq_some_iff.1 hshown
    refine ⟨e.id, (ExpressionIndex.id_mem_cellsFor_ofScene he x).2 hfires, ?_⟩
    rw [Scene.byId?_eq_some_iff.2 ⟨he, rfl⟩, Option.map_some]

/-! ### After a draw -/

lemma contention_draw (h : HeatMap) (fs : List Firing) :
    (h.draw fs).2.contention = Contention.summarize (busiestFirst fs) := rfl

lemma scale_draw (h : HeatMap) (fs : List Firing) : (h.draw fs).2.scale = .select fs :=
  Scale.select_perm (busiestFirst_perm fs)

lemma index_draw (h : HeatMap) (fs : List Firing) :
    (h.draw fs).2.index = .ofScene (h.draw fs).2.scene := rfl

/-- The cells show, for each key, the first firing with the highest count. -/
lemma firings_draw_perm (h : HeatMap) (fs : List Firing) :
    (h.draw fs).2.firings.Perm (firstPerKey (busiestFirst fs)) :=
  Scene.map_firing_redraw_perm ..

/-- If no two firings have the same key, the cells show all of them. -/
lemma firings_draw_perm_of_nodup (hkeys : (fs.map Firing.key).Nodup) (h : HeatMap) :
    (h.draw fs).2.firings.Perm fs := by
  have hkeys' : ((busiestFirst fs).map Firing.key).Nodup :=
    ((busiestFirst_perm fs).map Firing.key).nodup_iff.2 hkeys
  have hperm := h.firings_draw_perm fs
  rw [firstPerKey_eq_self hkeys'] at hperm
  exact hperm.trans (busiestFirst_perm fs)

/-- If no two firings have the same key, each is shown in the fill of the scale. -/
lemma shown?_draw (hkeys : (fs.map Firing.key).Nodup) (h : HeatMap) (key : String) :
    (h.draw fs).2.shown? key =
      (fs.find? (·.key = key)).map fun f => (f, (Scale.select fs).color f.count) := by
  rw [shown?, scene_draw, Scene.byKey?_redraw, Scale.select_perm (busiestFirst_perm fs),
    find?_perm (busiestFirst_perm fs) (((busiestFirst_perm fs).map Firing.key).nodup_iff.2 hkeys)]

/-! ### The report and the cells -/

/-- The report and the scale are those of the firings that the cells show. -/
structure DescribesCells (h : HeatMap) : Prop where
  contention_eq : h.contention = Contention.summarize (busiestFirst h.firings)
  scale_eq : h.scale = .select (busiestFirst h.firings)

lemma describesCells_draw (hkeys : (fs.map Firing.key).Nodup) (h : HeatMap) :
    (h.draw fs).2.DescribesCells where
  contention_eq := by
    rw [contention_draw]
    exact (summarize_busiestFirst_perm (firings_draw_perm_of_nodup hkeys h)).symm
  scale_eq := by
    rw [scale_draw]
    exact (Scale.select_perm
      ((busiestFirst_perm _).trans (firings_draw_perm_of_nodup hkeys h))).symm

/-- A report that leaves nothing out names as many keys as there are firings. -/
lemma length_keys_of_full (hcounts : (Contention.countsDown fs).length ≤ Contention.maxLines)
    (hfull : ∀ l ∈ Contention.summarize (busiestFirst fs), l.truncated = false) :
    ((Contention.summarize (busiestFirst fs)).flatMap ContentionLine.keys).length = fs.length := by
  have hsorted := descending_busiestFirst fs
  rw [← Contention.countsDown_perm (busiestFirst_perm fs)] at hcounts
  rw [Contention.summarize_of_descending hsorted, List.take_of_length_le hcounts] at hfull ⊢
  calc (((Contention.countsDown (busiestFirst fs)).map fun c =>
          Contention.line c (Contention.withCount (busiestFirst fs) c)).flatMap
          ContentionLine.keys).length
      = ((Contention.countsDown (busiestFirst fs)).flatMap
          (Contention.withCount (busiestFirst fs))).length := by
        rw [List.flatMap_map, List.length_flatMap, List.length_flatMap]
        congr 1
        apply List.map_congr_left
        intro c hc
        exact Contention.length_keys_of_not_truncated (hfull _ (List.mem_map_of_mem hc))
    _ = (busiestFirst fs).length := by rw [hsorted.flatMap_countsDown]
    _ = fs.length := (busiestFirst_perm fs).length_eq

/-- If the report leaves nothing out and is about the cells, no two firings have the same key. -/
lemma nodup_of_describesCells (hd : (h.draw fs).2.DescribesCells)
    (hcounts : (Contention.countsDown fs).length ≤ Contention.maxLines)
    (hfull : ∀ l ∈ (h.draw fs).2.contention, l.truncated = false) :
    (fs.map Firing.key).Nodup := by
  have hcontention := hd.contention_eq
  have hshown := h.firings_draw_perm fs
  have hsub : (h.draw fs).2.firings ⊆ fs := by
    intro f hf
    exact (busiestFirst_perm fs).subset ((firstPerKey_sublist _).subset (hshown.subset hf))
  have hcounts' : (Contention.countsDown (h.draw fs).2.firings).length ≤ Contention.maxLines :=
    (Contention.length_countsDown_le_of_subset hsub).trans hcounts
  have hlength : (firstPerKey (busiestFirst fs)).length = (busiestFirst fs).length := by
    rw [← hshown.length_eq, (busiestFirst_perm fs).length_eq,
      ← length_keys_of_full hcounts hfull,
      ← length_keys_of_full hcounts' (hcontention ▸ hfull), ← hcontention, contention_draw]
  rw [← ((busiestFirst_perm fs).map Firing.key).nodup_iff,
    ← (firstPerKey_sublist _).eq_of_length hlength]
  exact firstPerKey_keys_nodup _

/-- Whatever was on display before: if no two firings have the same key, the report and the scale of
a draw are those of the cells. A report that leaves nothing out is about the cells only then. -/
theorem draw_describes_cells (h : HeatMap) (fs : List Firing) :
    ((fs.map Firing.key).Nodup → (h.draw fs).2.DescribesCells) ∧
    ((Contention.countsDown fs).length ≤ Contention.maxLines →
      (∀ l ∈ (h.draw fs).2.contention, l.truncated = false) →
      (h.draw fs).2.DescribesCells → (fs.map Firing.key).Nodup) :=
  ⟨fun hkeys => describesCells_draw hkeys h,
    fun hcounts hfull hd => nodup_of_describesCells hd hcounts hfull⟩

/-- The heat map has been used before, and the lock was at its only cell. -/
theorem draw_describes_cells_after_use :
    let h := (blank .unixEpoch .utc).after
      [.draw [{ (default : Firing) with key := "c", count := 3, expressions := ["x"] }], .click 0]
    let fs : List Firing :=
      [{ (default : Firing) with key := "a", count := 1, expressions := ["x"] },
        { (default : Firing) with key := "b", count := 2, expressions := ["x"] }]
    (fs.map Firing.key).Nodup ∧ (h.draw fs).2.DescribesCells := by
  intro h fs
  have hkeys : (fs.map Firing.key).Nodup := by decide
  exact ⟨hkeys, (draw_describes_cells h fs).1 hkeys⟩

/-- Of two firings with one key, the report and the scale have both and the cells only one. -/
theorem ignored_firing_reported :
    let h := ((blank .unixEpoch .utc).draw
      [{ (default : Firing) with key := "a", count := 2, expressions := ["x"] },
        { (default : Firing) with key := "a", count := 1, expressions := ["x"] }]).2
    h.firings.map Firing.count = [2] ∧ h.contention.map ContentionLine.count = [2, 1] ∧
      h.scale = .ordinal [1, 2] (Scheme.oranges 3) ∧ ¬ h.DescribesCells := by
  intro h
  obtain ⟨hfirings, hcontention, hscale, hcells⟩ :
      h.firings.map Firing.count = [2] ∧ h.contention.map ContentionLine.count = [2, 1] ∧
        h.scale = .ordinal [1, 2] (Scheme.oranges 3) ∧
        (Contention.summarize (busiestFirst h.firings)).map ContentionLine.count = [2] := by
    simp (disch := decide) only [h, draw, busiestFirst_eq_self]
    decide +kernel
  refine ⟨hfirings, hcontention, hscale, fun hd => ?_⟩
  rw [hd.contention_eq, hcells] at hcontention
  cases hcontention

/-! ### Order and history -/

/-- Two heat maps show the same: the same firings in the same fills, with the same report and the
same scale, and the same cells for each expression. -/
structure SameDrawing (h h' : HeatMap) : Prop where
  shown?_eq : ∀ key, h.shown? key = h'.shown? key
  contention_eq : h.contention = h'.contention
  scale_eq : h.scale = h'.scale
  mem_cellKeys_iff : ∀ x key?, key? ∈ h.cellKeys x ↔ key? ∈ h'.cellKeys x

/-- Nothing is highlighted, the panel is empty and not held, and the pointer is at no cell. -/
structure AtRest (h : HeatMap) : Prop extends NothingHighlighted h where
  lock_eq : h.lock = .unfrozen
  hovered_eq : h.hovered = none
  detail_eq : h.detail = .placeholder

lemma atRest_draw (h : HeatMap) (fs : List Firing) : (h.draw fs).2.AtRest where
  toNothingHighlighted := h.nothingHighlighted_draw fs
  lock_eq := lock_draw h fs
  hovered_eq := hovered_draw h fs
  detail_eq := detail_draw h fs

/-- A draw forgets what was drawn before, what was done with it, and in which order its firings were
given, if no two of them have the same key. -/
theorem draw_forgets (h₁ h₂ : HeatMap) (hperm : fs.Perm gs) (hkeys : (fs.map Firing.key).Nodup) :
    (h₁.draw fs).2.SameDrawing (h₂.draw gs).2 ∧
      (h₁.draw fs).2.AtRest ∧ (h₂.draw gs).2.AtRest := by
  have hkeys' : (gs.map Firing.key).Nodup := (hperm.map Firing.key).nodup_iff.1 hkeys
  have hshown : ∀ key, (h₁.draw fs).2.shown? key = (h₂.draw gs).2.shown? key := by
    intro key
    rw [shown?_draw hkeys, shown?_draw hkeys', find?_perm hperm hkeys, Scale.select_perm hperm]
  refine ⟨⟨hshown, ?_, ?_, ?_⟩, h₁.atRest_draw fs, h₂.atRest_draw gs⟩
  · rw [contention_draw, contention_draw]
    exact summarize_busiestFirst_perm hperm
  · rw [scale_draw, scale_draw]
    exact Scale.select_perm hperm
  · intro x key?
    rw [mem_cellKeys_iff (h₁.index_draw fs), mem_cellKeys_iff (h₂.index_draw gs)]
    simp only [hshown]

/-- A blank heat map, and one with a held panel and a highlighted entry that gets the firings in the
reverse order. -/
theorem draw_forgets_held_panel :
    let h := (blank .unixEpoch .utc).after [.setListing ["x"],
      .draw [{ (default : Firing) with key := "a", count := 3, expressions := ["x"] }],
      .click 0, .toggleHighlight 0]
    let fs : List Firing :=
      [{ (default : Firing) with key := "a", count := 1, expressions := ["x"] },
        { (default : Firing) with key := "b", count := 1, expressions := ["x"] }]
    h.lock = .frozen 0 ∧ h.listing.Picked 0 ∧ fs.Perm fs.reverse ∧ (fs.map Firing.key).Nodup ∧
      ((blank .unixEpoch .utc).draw fs).2.SameDrawing (h.draw fs.reverse).2 ∧
      (h.draw fs.reverse).2.AtRest := by
  intro h fs
  have hlock : h.lock = .frozen 0 := by decide +kernel
  have hpicked : h.listing.Picked 0 :=
    ⟨{ expression := "x", highlighted := true }, by decide +kernel, rfl⟩
  have hperm : fs.Perm fs.reverse := (List.reverse_perm fs).symm
  have hkeys : (fs.map Firing.key).Nodup := by decide
  obtain ⟨hsame, -, hrest⟩ := draw_forgets (blank .unixEpoch .utc) h hperm hkeys
  exact ⟨hlock, hpicked, hperm, hkeys, hsame, hrest⟩

end HeatMap

end CronHeatMap
