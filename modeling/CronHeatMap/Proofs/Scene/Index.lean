import CronHeatMap.Proofs.Scene
import CronHeatMap.Scene.Index
import Mathlib.Data.Finset.Card

/-!
# What the index of a scene finds

The index is built in one pass, which adds an element to the entry of an expression unless it is the
last one that was added there. Since the elements of a scene have distinct numbers, this is enough
to list each element once: under an expression, the index has the elements in which it fires, in
document order (`cellsFor_ofScene`). The entries are those of the expressions that fire somewhere,
so that the index inverts the firings (`ofElements_inverts_firings`).
-/

namespace CronHeatMap.ExpressionIndex

/-- A list of numbers with `id` at its end. -/
def endingWith (ids : List ElementId) (id : ElementId) : List ElementId :=
  if ids.getLast? = some id then ids else ids ++ [id]

@[simp] lemma endingWith_endingWith (ids : List ElementId) (id : ElementId) :
    endingWith (endingWith ids id) id = endingWith ids id := by
  by_cases hlast : ids.getLast? = some id <;> simp [endingWith, hlast]

lemma endingWith_of_notMem {ids : List ElementId} {id : ElementId} (hid : id ∉ ids) :
    endingWith ids id = ids ++ [id] := by
  rw [endingWith, if_neg]
  intro hlast
  exact hid (List.mem_of_getLast? hlast)

lemma IndexEntry.reverse_latestFirst_add (entry : IndexEntry) (id : ElementId) :
    (IndexEntry.add entry id).latestFirst.reverse = endingWith entry.latestFirst.reverse id := by
  rw [IndexEntry.add, endingWith, List.getLast?_reverse]
  split_ifs <;> simp

@[simp] lemma expression_add (entry : IndexEntry) (id : ElementId) :
    (IndexEntry.add entry id).expression = entry.expression := by
  rw [IndexEntry.add]
  split_ifs <;> rfl

/-! ### Building -/

variable {entries : List IndexEntry} {id : ElementId}

lemma cellsFor_nil (x : String) : cellsFor { entries := [] } x = [] := rfl

lemma cellsFor_cons (entry : IndexEntry) (entries : List IndexEntry) (x : String) :
    cellsFor { entries := entry :: entries } x =
      if entry.expression = x then entry.latestFirst.reverse else cellsFor { entries } x := by
  by_cases hx : entry.expression = x <;> simp [cellsFor, hx]

/-- Adding an element under an expression changes what is found under this expression only. -/
lemma cellsFor_addTo (x y : String) (id : ElementId) (entries : List IndexEntry) :
    cellsFor { entries := addTo x id entries } y =
      if x = y then endingWith (cellsFor { entries } y) id else cellsFor { entries } y := by
  induction entries with
  | nil =>
    rw [addTo, cellsFor_cons, cellsFor_nil]
    rfl
  | cons entry entries ih =>
    rw [addTo]
    split_ifs with hentry hxy hxy
    · rw [cellsFor_cons, cellsFor_cons, expression_add, if_pos (hentry.trans hxy),
        if_pos (hentry.trans hxy), IndexEntry.reverse_latestFirst_add]
    · rw [cellsFor_cons, cellsFor_cons, expression_add, hentry, if_neg hxy, if_neg hxy]
    · have hne : entry.expression ≠ y := fun hy => hentry (hy.trans hxy.symm)
      rw [cellsFor_cons, cellsFor_cons, if_neg hne, if_neg hne, ih, if_pos hxy]
    · rw [cellsFor_cons, cellsFor_cons, ih, if_neg hxy]

/-- An element is added once under each of its expressions, however often they are listed. -/
lemma cellsFor_foldl_addTo (xs : List String) (y : String) :
    cellsFor { entries := xs.foldl (fun entries x => addTo x id entries) entries } y =
      if y ∈ xs then endingWith (cellsFor { entries } y) id else cellsFor { entries } y := by
  induction xs generalizing entries with
  | nil => simp
  | cons x xs ih =>
    rw [List.foldl_cons, ih, cellsFor_addTo]
    by_cases hx : x = y
    · simp [hx]
    · simp [hx, Ne.symm hx]

/-- Elements with numbers that are not found yet are added in their order. -/
lemma cellsFor_foldl_addElement {es : List Element} {y : String} (hes : (es.map Element.id).Nodup)
    (hnew : ∀ e ∈ es, e.id ∉ cellsFor { entries } y) :
    cellsFor { entries := es.foldl addElement entries } y =
      cellsFor { entries } y ++ (es.filter (y ∈ ·.firing.expressions)).map Element.id := by
  induction es generalizing entries with
  | nil => simp
  | cons e es ih =>
    rw [List.map_cons, List.nodup_cons] at hes
    rw [List.forall_mem_cons] at hnew
    have hadd : cellsFor { entries := addElement entries e } y =
        cellsFor { entries } y ++ if y ∈ e.firing.expressions then [e.id] else [] := by
      rw [addElement, cellsFor_foldl_addTo, endingWith_of_notMem hnew.1]
      split_ifs <;> simp
    have hrest : ∀ e' ∈ es, e'.id ∉ cellsFor { entries := addElement entries e } y := by
      intro e' he'
      have hne : e'.id ≠ e.id := fun hid => hes.1 (hid ▸ List.mem_map_of_mem he')
      rw [hadd]
      split_ifs <;> simp [hnew.2 e' he', hne]
    rw [List.foldl_cons, ih hes.2 hrest, hadd]
    by_cases hy : y ∈ e.firing.expressions <;> simp [hy]

/-! ### The index of a scene -/

/-- The index of some elements. -/
def ofElements (es : List Element) : ExpressionIndex := { entries := es.foldl addElement [] }

lemma cellsFor_ofElements {es : List Element} (hes : (es.map Element.id).Nodup) (x : String) :
    (ofElements es).cellsFor x = (es.filter (x ∈ ·.firing.expressions)).map Element.id := by
  rw [ofElements, cellsFor_foldl_addElement hes (by simp [cellsFor_nil]), cellsFor_nil,
    List.nil_append]

lemma id_mem_cellsFor_ofElements {es : List Element} (hes : (es.map Element.id).Nodup)
    {e : Element} (he : e ∈ es) (x : String) :
    e.id ∈ (ofElements es).cellsFor x ↔ x ∈ e.firing.expressions := by
  rw [cellsFor_ofElements hes, List.mem_map]
  constructor
  · rintro ⟨e', he', hid⟩
    obtain ⟨hmem, hfires⟩ := List.mem_filter.1 he'
    rw [← List.inj_on_of_nodup_map hes hmem he hid]
    simpa using hfires
  · intro hfires
    exact ⟨e, List.mem_filter.2 ⟨he, by simpa using hfires⟩, rfl⟩

/-- The index finds the elements in which an expression fires, in document order. -/
lemma cellsFor_ofScene (s : Scene) (x : String) :
    (ofScene s).cellsFor x = s.idsWhere (x ∈ ·.firing.expressions) :=
  cellsFor_ofElements s.ids_nodup x

lemma id_mem_cellsFor_ofScene {s : Scene} {e : Element} (he : e ∈ s.elements) (x : String) :
    e.id ∈ (ofScene s).cellsFor x ↔ x ∈ e.firing.expressions :=
  id_mem_cellsFor_ofElements s.ids_nodup he x

/-- The index does not depend on marks. -/
@[simp] lemma ofScene_mark (s : Scene) (f : Element → Marks) : ofScene (s.mark f) = ofScene s := by
  rw [ofScene, ofScene, Scene.elements_mark, List.foldl_map]
  rfl

/-! ### The entries -/

/-- The expressions that have an entry. -/
def indexed (entries : List IndexEntry) : List String := entries.map IndexEntry.expression

lemma indexed_cons (entry : IndexEntry) (entries : List IndexEntry) :
    indexed (entry :: entries) = entry.expression :: indexed entries := rfl

/-- Adding under an expression without an entry makes one, at the end. -/
lemma indexed_addTo (x : String) (id : ElementId) (entries : List IndexEntry) :
    indexed (addTo x id entries) =
      if x ∈ indexed entries then indexed entries else indexed entries ++ [x] := by
  induction entries with
  | nil => rfl
  | cons entry entries ih =>
    rw [addTo]
    by_cases hx : entry.expression = x
    · simp [indexed, hx]
    · rw [if_neg hx, indexed_cons, indexed_cons, ih]
      by_cases hmem : x ∈ indexed entries <;> simp [hmem, Ne.symm hx]

lemma mem_indexed_addTo {x y : String} :
    y ∈ indexed (addTo x id entries) ↔ y ∈ indexed entries ∨ y = x := by
  rw [indexed_addTo]
  split_ifs with hx
  · rw [or_iff_left_of_imp]
    rintro rfl
    exact hx
  · rw [List.mem_append, List.mem_singleton]

lemma nodup_indexed_addTo (hentries : (indexed entries).Nodup) (x : String) :
    (indexed (addTo x id entries)).Nodup := by
  rw [indexed_addTo]
  split_ifs with hx
  · exact hentries
  · rw [← List.concat_eq_append]
    exact hentries.concat hx

lemma mem_indexed_addElement {e : Element} {y : String} :
    y ∈ indexed (addElement entries e) ↔ y ∈ indexed entries ∨ y ∈ e.firing.expressions := by
  rw [addElement]
  induction e.firing.expressions generalizing entries with
  | nil => simp
  | cons x xs ih => rw [List.foldl_cons, ih, mem_indexed_addTo, List.mem_cons, or_assoc]

lemma nodup_indexed_addElement (hentries : (indexed entries).Nodup) (e : Element) :
    (indexed (addElement entries e)).Nodup :=
  List.foldlRecOn (motive := fun entries => (indexed entries).Nodup) _ _ hentries
    fun _ hnodup x _ => nodup_indexed_addTo hnodup x

/-- Each expression has one entry at most. -/
lemma nodup_indexed_ofElements (es : List Element) : (indexed (ofElements es).entries).Nodup :=
  List.foldlRecOn (motive := fun entries => (indexed entries).Nodup) _ _ List.nodup_nil
    fun _ hnodup e _ => nodup_indexed_addElement hnodup e

/-- Adding elements makes entries for the expressions that fire in them. -/
lemma mem_indexed_foldl_addElement {es : List Element} {x : String} :
    x ∈ indexed (es.foldl addElement entries) ↔
      x ∈ indexed entries ∨ x ∈ es.flatMap (·.firing.expressions) := by
  induction es generalizing entries with
  | nil => simp
  | cons e es ih =>
    rw [List.foldl_cons, ih, mem_indexed_addElement, List.flatMap_cons, List.mem_append, or_assoc]

/-- There are as many entries as expressions that fire somewhere. -/
lemma size_ofElements (es : List Element) :
    (ofElements es).size = (es.flatMap (·.firing.expressions)).toFinset.card := by
  have hset : (indexed (ofElements es).entries).toFinset =
      (es.flatMap (·.firing.expressions)).toFinset := by
    ext x
    rw [List.mem_toFinset, List.mem_toFinset, ofElements, mem_indexed_foldl_addElement]
    exact or_iff_right List.not_mem_nil
  rw [← hset, List.toFinset_card_of_nodup (nodup_indexed_ofElements es), indexed, List.length_map,
    size]

/-- The index of elements with distinct numbers is the inverse of what fires in them: under an
expression it has the elements in which this fires, in document order and each of them once, and
under any other one nothing; and it counts the expressions that fire somewhere. The index of a scene
is that of its elements. -/
theorem ofElements_inverts_firings {es : List Element} (hes : (es.map Element.id).Nodup) :
    let index := ofElements es
    (∀ x, index.cellsFor x = (es.filter (x ∈ ·.firing.expressions)).map Element.id ∧
      (index.cellsFor x).Nodup ∧
      (∀ e ∈ es, e.id ∈ index.cellsFor x ↔ x ∈ e.firing.expressions) ∧
      (index.cellsFor x = [] ↔ ∀ e ∈ es, x ∉ e.firing.expressions)) ∧
    index.size = (es.flatMap (·.firing.expressions)).toFinset.card ∧
    ∀ s : Scene, s.elements = es → ofScene s = index := by
  intro index
  refine ⟨fun x => ⟨cellsFor_ofElements hes x, ?_, ?_, ?_⟩, size_ofElements es, ?_⟩
  · rw [cellsFor_ofElements hes]
    exact hes.sublist (List.filter_sublist.map _)
  · exact fun e he => id_mem_cellsFor_ofElements hes he x
  · rw [cellsFor_ofElements hes, List.map_eq_nil_iff, List.filter_eq_nil_iff]
    simp only [decide_eq_true_eq]
  · rintro s rfl
    rfl

/-- Two elements, in which three expressions fire. They are reported in different orders, and one of
them comes again after another one. -/
theorem ofElements_inverts_firings_interleaved :
    let e : Element := { (default : Element) with firing.expressions := ["a", "b", "a"] }
    let e' : Element :=
      { (default : Element) with id := 1, firing.expressions := ["b", "c", "b", "a", "b"] }
    ([e, e'].map Element.id).Nodup ∧ (ofElements [e, e']).cellsFor "b" = [0, 1] ∧
      (ofElements [e, e']).cellsFor "d" = [] ∧ (ofElements [e, e']).size = 3 := by
  intro e e'
  have hids : ([e, e'].map Element.id).Nodup := by decide
  obtain ⟨hcells, hsize, -⟩ := ofElements_inverts_firings hids
  refine ⟨hids, ?_, ?_, ?_⟩
  · rw [(hcells "b").1]
    decide
  · exact (hcells "d").2.2.2.2 (by decide)
  · rw [hsize]
    decide

end CronHeatMap.ExpressionIndex
