import CronHeatMap.Scene.Reconcile
import Mathlib.Data.List.Nodup
import Mathlib.Tactic.Common

/-!
# Elements of a scene

Marking the elements of a scene changes nothing but their marks: the same numbers find the same
firings. After a reconciliation, a key finds its first firing in the fill of the scale, whatever the
scene was before (`byKey?_redraw`); the element either carries on the place and the marks that it had
before or has entered at the place of its firing and without marks (`exists_of_mem_redraw`).
-/

namespace CronHeatMap

/-- Among distinct keys, a key finds what has it. -/
lemma find?_eq_some_iff_of_nodup {α β : Type} [DecidableEq β] {key : α → β} {l : List α}
    (hnodup : (l.map key).Nodup) {k : β} {a : α} :
    l.find? (key · = k) = some a ↔ a ∈ l ∧ key a = k := by
  constructor
  · intro h
    exact ⟨List.mem_of_find?_eq_some h, by simpa using List.find?_some h⟩
  · rintro ⟨ha, rfl⟩
    have hsome : (l.find? (key · = key a)).isSome = true := List.find?_isSome.2 ⟨a, ha, by simp⟩
    obtain ⟨a', h⟩ := Option.isSome_iff_exists.1 hsome
    have hkey : key a' = key a := by simpa using List.find?_some h
    rw [h, List.inj_on_of_nodup_map hnodup (List.mem_of_find?_eq_some h) ha hkey]

/-! ### The first firing for each key -/

/-- Among the first firings for each key, a key finds what it finds among all firings. -/
@[simp] lemma find?_firstPerKey (fs : List Firing) (key : String) :
    (firstPerKey fs).find? (·.key = key) = fs.find? (·.key = key) := by
  induction fs with
  | nil => rfl
  | cons f fs ih =>
    rw [firstPerKey]
    by_cases hkey : f.key = key
    · simp [hkey]
    · have hother : ∀ f' : Firing, (f'.key ≠ f.key ∧ f'.key = key) ↔ f'.key = key := by
        intro f'
        constructor
        · exact And.right
        · rintro rfl
          exact ⟨Ne.symm hkey, rfl⟩
      simp [hkey, List.find?_filter, hother, ← ih]

/-- The first firings for each key have the keys of all firings. -/
lemma mem_keys_firstPerKey {fs : List Firing} {key : String} :
    key ∈ (firstPerKey fs).map Firing.key ↔ key ∈ fs.map Firing.key := by
  induction fs with
  | nil => rfl
  | cons f fs ih =>
    rw [firstPerKey, List.map_cons, List.map_cons, List.mem_cons, List.mem_cons, ← ih]
    by_cases hkey : key = f.key
    · simp [hkey]
    · simp only [hkey, false_or, List.mem_map, List.mem_filter]
      constructor
      · rintro ⟨f', ⟨hf', -⟩, rfl⟩
        exact ⟨f', hf', rfl⟩
      · rintro ⟨f', hf', rfl⟩
        exact ⟨f', ⟨hf', by simpa using hkey⟩, rfl⟩

lemma firstPerKey_sublist (fs : List Firing) : (firstPerKey fs).Sublist fs := by
  induction fs with
  | nil => exact List.Sublist.slnil
  | cons f fs ih => exact (List.filter_sublist.trans ih).cons_cons f

/-- Firings with distinct keys are all the first for their keys. -/
lemma firstPerKey_eq_self {fs : List Firing} (hnodup : (fs.map Firing.key).Nodup) :
    firstPerKey fs = fs := by
  induction fs with
  | nil => rfl
  | cons f fs ih =>
    rw [List.map_cons, List.nodup_cons] at hnodup
    rw [firstPerKey, ih hnodup.2, List.filter_eq_self.2]
    intro f' hf'
    have hne : f'.key ≠ f.key := fun hkey => hnodup.1 (hkey ▸ List.mem_map_of_mem hf')
    simpa using hne

namespace Scene

variable {s : Scene} {id : ElementId} {e : Element}

/-! ### Finding elements -/

/-- A number finds the one element that has it. -/
lemma byId?_eq_some_iff : s.byId? id = some e ↔ e ∈ s.elements ∧ e.id = id :=
  find?_eq_some_iff_of_nodup s.ids_nodup

/-- A key finds the one element that has it. -/
lemma byKey?_eq_some_iff {key : String} : s.byKey? key = some e ↔ e ∈ s.elements ∧ e.key = key :=
  find?_eq_some_iff_of_nodup s.keys_nodup

/-- The numbers that find an element are those of the scene. -/
lemma contains_iff_exists_byId? : s.Contains id ↔ ∃ e, s.byId? id = some e := by
  simp only [byId?_eq_some_iff]
  rfl

/-! ### Marking elements -/

@[simp] lemma elements_mark (s : Scene) (f : Element → Marks) :
    (s.mark f).elements = s.elements.map fun e => { e with marks := f e } := rfl

@[simp] lemma contains_mark {f : Element → Marks} : (s.mark f).Contains id ↔ s.Contains id := by
  simp [Contains]

@[simp] lemma byId?_mark (s : Scene) (f : Element → Marks) (id : ElementId) :
    (s.mark f).byId? id = (s.byId? id).map fun e => { e with marks := f e } := by
  rw [byId?, elements_mark, List.find?_map]
  rfl

/-- Marking twice is marking once. -/
lemma mark_mark (s : Scene) (f g : Element → Marks) :
    (s.mark f).mark g = s.mark fun e => g { e with marks := f e } := by
  simp [mark]

/-- An element is kept as it is by its own marks. -/
@[simp] lemma mark_marks (s : Scene) : s.mark Element.marks = s := by
  simp [mark]

/-! ### The lock mark -/

/-- The element with the number is locked and no other one is; without a number, none is locked. -/
def LockedAt (s : Scene) (cell? : Option ElementId) : Prop :=
  ∀ e ∈ s.elements, e.marks.locked = true ↔ cell? = some e.id

namespace LockedAt

variable {cell? : Option ElementId} {cell : ElementId}

lemma empty : Scene.empty.LockedAt none := by
  simp [LockedAt, Scene.empty]

/-- Marks of another kind do not matter. -/
lemma mark (hs : s.LockedAt cell?) {f : Element → Marks}
    (hf : ∀ e ∈ s.elements, (f e).locked = e.marks.locked) : (s.mark f).LockedAt cell? := by
  simp only [LockedAt, elements_mark, List.forall_mem_map]
  intro e he
  rw [hf e he]
  exact hs e he

/-- Releasing the locked element leaves none. -/
lemma release (hs : s.LockedAt (some cell)) : (s.setLocked cell false).LockedAt none := by
  simp only [LockedAt, setLocked, elements_mark, List.forall_mem_map]
  intro e he
  split_ifs with hid
  · simp
  · have hne : cell ≠ e.id := fun h => hid h.symm
    simpa [hne] using hs e he

/-- Locking an element while none is locked. -/
lemma lock (hs : s.LockedAt none) (cell : ElementId) :
    (s.setLocked cell true).LockedAt (some cell) := by
  simp only [LockedAt, setLocked, elements_mark, List.forall_mem_map]
  intro e he
  split_ifs with hid
  · simp [hid]
  · have hne : cell ≠ e.id := fun h => hid h.symm
    simpa [hne] using hs e he

/-- Marks that neither highlight nor lock an element are none. -/
lemma elements_mark_eq {f : Element → Marks} (hlocked : (s.mark f).LockedAt none)
    (hhighlighted : ∀ e ∈ s.elements, (f e).highlighted = false) :
    (s.mark f).elements = s.elements.map fun e => { e with marks := {} } := by
  rw [elements_mark]
  apply List.map_congr_left
  intro e he
  have hunlocked : (f e).locked = false := by
    simpa using hlocked { e with marks := f e } (List.mem_map_of_mem he)
  have hmarks : f e = {} := by
    rw [Marks.mk.injEq]
    exact ⟨hhighlighted e he, hunlocked⟩
  rw [hmarks]

end LockedAt

/-! ### The highlight mark -/

/-- No element is highlighted. -/
def NoneHighlighted (s : Scene) : Prop := ∀ e ∈ s.elements, e.marks.highlighted = false

lemma noneHighlighted_clearHighlights (s : Scene) : s.clearHighlights.NoneHighlighted := by
  simp [NoneHighlighted, clearHighlights]

/-! ### Reconciliation -/

variable {firings : List Firing} {scale : Scale}

/-- What an element that survives has come from. -/
lemma exists_of_mem_survivors {firsts : List Firing} (he : e ∈ s.survivors firsts scale) :
    ∃ e₀ ∈ s.elements, ∃ f ∈ firsts, f.key = e₀.key ∧ e = e₀.display scale f := by
  obtain ⟨e₀, he₀, hmap⟩ := List.mem_filterMap.1 he
  obtain ⟨f, hf, rfl⟩ := Option.map_eq_some_iff.1 hmap
  exact ⟨e₀, he₀, f, List.mem_of_find?_eq_some hf, by simpa using List.find?_some hf, rfl⟩

/-- What an element that enters has come from. -/
lemma exists_of_mem_entering {fs : List Firing} (he : e ∈ entering scale id fs) :
    ∃ f ∈ fs, e = .enter scale e.id f := by
  induction fs generalizing id with
  | nil => simp [entering] at he
  | cons f fs ih =>
    rcases List.mem_cons.1 he with rfl | he
    · exact ⟨f, List.mem_cons_self, rfl⟩
    · obtain ⟨f', hf', henter⟩ := ih he
      exact ⟨f', List.mem_cons_of_mem f hf', henter⟩

/-- An element of a reconciled scene shows the first firing with its key. -/
lemma find?_of_mem_redraw (he : e ∈ (s.redraw firings scale).elements) :
    firings.find? (·.key = e.key) = some e.firing := by
  rw [← find?_firstPerKey, find?_eq_some_iff_of_nodup (firstPerKey_keys_nodup firings)]
  rcases List.mem_append.1 he with hsurvives | henters
  · obtain ⟨e₀, -, f, hf, -, rfl⟩ := exists_of_mem_survivors hsurvives
    exact ⟨hf, rfl⟩
  · obtain ⟨f, hf, henter⟩ := exists_of_mem_entering henters
    rw [henter]
    exact ⟨(List.mem_filter.1 hf).1, rfl⟩

/-- An element of a reconciled scene has the fill of its count. -/
lemma fill_of_mem_redraw (he : e ∈ (s.redraw firings scale).elements) :
    e.fill = scale.color e.firing.count := by
  rcases List.mem_append.1 he with hsurvives | henters
  · obtain ⟨e₀, -, f, -, -, rfl⟩ := exists_of_mem_survivors hsurvives
    rfl
  · obtain ⟨f, -, henter⟩ := exists_of_mem_entering henters
    rw [henter]
    rfl

/-- An element of a reconciled scene has survived with its number, its key, its place and its marks,
or it has entered at the place of its firing and without marks. -/
lemma exists_of_mem_redraw (he : e ∈ (s.redraw firings scale).elements) :
    (∃ e₀ ∈ s.elements, e₀.id = e.id ∧ e₀.key = e.key ∧ e₀.seat = e.seat ∧ e₀.marks = e.marks) ∨
      e.id ∈ (s.reconciliation firings).entered ∧ e.seat = e.firing.seat ∧ e.marks = {} := by
  rcases List.mem_append.1 he with hsurvives | henters
  · obtain ⟨e₀, he₀, f, -, hkey, rfl⟩ := exists_of_mem_survivors hsurvives
    exact Or.inl ⟨e₀, he₀, rfl, hkey.symm, rfl, rfl⟩
  · have hid : e.id ∈ (s.reconciliation firings).entered := by
      have hmem := List.mem_map_of_mem (f := Element.id) henters
      rwa [entering_map_id] at hmem
    obtain ⟨f, -, henter⟩ := exists_of_mem_entering henters
    rw [henter] at hid ⊢
    exact Or.inr ⟨hid, rfl, rfl⟩

/-- A reconciled scene has the keys of the firings. -/
lemma mem_keys_redraw {key : String} :
    key ∈ (s.redraw firings scale).elements.map Element.key ↔ key ∈ firings.map Firing.key := by
  rw [← mem_keys_firstPerKey, redraw, List.map_append, entering_map_key, List.mem_append]
  constructor
  · rintro (hsurvives | henters)
    · obtain ⟨e, he, rfl⟩ := List.mem_map.1 hsurvives
      obtain ⟨e₀, -, f, hf, -, rfl⟩ := exists_of_mem_survivors he
      exact List.mem_map_of_mem hf
    · exact (List.filter_sublist.map Firing.key).subset henters
  · intro hkey
    obtain ⟨f, hf, rfl⟩ := List.mem_map.1 hkey
    cases hold : s.byKey? f.key with
    | none => exact Or.inr (List.mem_map_of_mem (List.mem_filter.2 ⟨hf, by simp [hold]⟩))
    | some e₀ =>
      have hkey₀ : e₀.key = f.key := by simpa using List.find?_some hold
      have hfirst : ((firstPerKey firings).find? (·.key = e₀.key)).isSome = true :=
        List.find?_isSome.2 ⟨f, hf, by simp [hkey₀]⟩
      obtain ⟨f', hf'⟩ := Option.isSome_iff_exists.1 hfirst
      have hkey' : f'.key = f.key := by simpa [hkey₀] using List.find?_some hf'
      refine Or.inl (List.mem_map.2 ⟨e₀.display scale f', ?_, hkey'⟩)
      exact List.mem_filterMap.2 ⟨e₀, List.mem_of_find?_eq_some hold, by rw [hf']; rfl⟩

/-- After a reconciliation, a key finds its first firing in the fill of the scale. -/
lemma byKey?_redraw (s : Scene) (firings : List Firing) (scale : Scale) (key : String) :
    ((s.redraw firings scale).byKey? key).map (fun e => (e.firing, e.fill)) =
      (firings.find? (·.key = key)).map fun f => (f, scale.color f.count) := by
  cases hfound : (s.redraw firings scale).byKey? key with
  | some e =>
    obtain ⟨he, rfl⟩ := byKey?_eq_some_iff.1 hfound
    rw [find?_of_mem_redraw he, Option.map_some, Option.map_some, fill_of_mem_redraw he]
  | none =>
    have hkey : key ∉ (s.redraw firings scale).elements.map Element.key := by
      simpa [byKey?, List.find?_eq_none] using hfound
    rw [mem_keys_redraw] at hkey
    have hnone : firings.find? (·.key = key) = none := by
      simpa [List.find?_eq_none] using hkey
    rw [hnone]
    rfl

/-- The elements of a reconciled scene show the first firing for each key. -/
lemma map_firing_redraw_perm (s : Scene) (firings : List Firing) (scale : Scale) :
    ((s.redraw firings scale).elements.map Element.firing).Perm (firstPerKey firings) := by
  have hnodup : ((s.redraw firings scale).elements.map Element.firing).Nodup := by
    apply List.Nodup.of_map Firing.key
    rw [List.map_map]
    exact (s.redraw firings scale).keys_nodup
  rw [List.perm_ext_iff_of_nodup hnodup (firstPerKey_keys_nodup firings).of_map]
  intro f
  constructor
  · intro hf
    obtain ⟨e, he, rfl⟩ := List.mem_map.1 hf
    have hfirst := find?_of_mem_redraw he
    rw [← find?_firstPerKey] at hfirst
    exact List.mem_of_find?_eq_some hfirst
  · intro hf
    have hkey : f.key ∈ (s.redraw firings scale).elements.map Element.key :=
      mem_keys_redraw.2 (mem_keys_firstPerKey.1 (List.mem_map_of_mem hf))
    obtain ⟨e, he, hekey⟩ := List.mem_map.1 hkey
    have hfirst := find?_of_mem_redraw he
    rw [hekey, ← find?_firstPerKey,
      (find?_eq_some_iff_of_nodup (firstPerKey_keys_nodup firings)).2 ⟨hf, rfl⟩,
      Option.some_inj] at hfirst
    exact List.mem_map.2 ⟨e, he, hfirst.symm⟩

lemma LockedAt.redraw (hs : s.LockedAt none) : (s.redraw firings scale).LockedAt none := by
  intro e he
  rcases exists_of_mem_redraw he with ⟨e₀, he₀, hid, -, -, hmarks⟩ | ⟨-, -, hmarks⟩
  · rw [← hid, ← hmarks]
    exact hs e₀ he₀
  · simp [hmarks]

lemma NoneHighlighted.redraw (hs : s.NoneHighlighted) :
    (s.redraw firings scale).NoneHighlighted := by
  intro e he
  rcases exists_of_mem_redraw he with ⟨e₀, he₀, -, -, -, hmarks⟩ | ⟨-, -, hmarks⟩
  · rw [← hmarks]
    exact hs e₀ he₀
  · rw [hmarks]

end Scene

end CronHeatMap
