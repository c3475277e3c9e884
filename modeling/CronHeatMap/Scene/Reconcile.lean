import CronHeatMap.Scene

/-!
# Reconciling a scene with new firings

A scene is joined with a list of firings by key. An element whose key is among the firings survives
with its number, its place and its marks, and shows the first firing with that key; an element
without a firing exits; a key without an element enters. Survivors keep their order and come before
those that enter, which stand in the order of the firings.
-/

namespace CronHeatMap

/-- The numbers of the elements that a reconciliation has touched. -/
structure Reconciliation where
  entered : List ElementId := []
  updated : List ElementId := []
  exited : List ElementId := []
deriving Repr, DecidableEq, Inhabited

/-- The first firing for each key. -/
def firstPerKey : List Firing → List Firing
  | [] => []
  | f :: fs => f :: (firstPerKey fs).filter (·.key ≠ f.key)

theorem firstPerKey_keys_nodup (fs : List Firing) :
    ((firstPerKey fs).map Firing.key).Nodup := by
  induction fs with
  | nil => simp [firstPerKey]
  | cons f fs ih =>
    simp only [firstPerKey, List.map_cons, List.nodup_cons]
    refine ⟨by simp, List.Pairwise.sublist (List.Sublist.map _ List.filter_sublist) ih⟩

namespace Scene

/-- The elements that survive, showing their new firings. -/
def survivors (s : Scene) (firsts : List Firing) (scale : Scale) : List Element :=
  s.elements.filterMap fun e => (firsts.find? (·.key = e.key)).map (e.display scale)

/-- The firings that have no element yet. -/
def newcomers (s : Scene) (firsts : List Firing) : List Firing :=
  firsts.filter fun f => (s.byKey? f.key).isNone

/-- The elements that enter for some firings, with consecutive numbers from `id` on. -/
def entering (scale : Scale) (id : Nat) : List Firing → List Element
  | [] => []
  | f :: fs => Element.enter scale id f :: entering scale (id + 1) fs

@[simp] theorem entering_map_key (scale : Scale) (id : Nat) (fs : List Firing) :
    (entering scale id fs).map Element.key = fs.map Firing.key := by
  induction fs generalizing id with
  | nil => rfl
  | cons f fs ih => simp [entering, ih, Element.enter, Element.key]

@[simp] theorem entering_map_id (scale : Scale) (id : Nat) (fs : List Firing) :
    (entering scale id fs).map Element.id = List.range' id fs.length := by
  induction fs generalizing id with
  | nil => rfl
  | cons f fs ih => simp [entering, ih, Element.enter, List.range'_succ]

private theorem survivors_sublist {α : Type} (s : Scene) (firsts : List Firing) (scale : Scale)
    (g : Element → α) (h : ∀ e f, f.key = e.key → g (e.display scale f) = g e) :
    ((s.survivors firsts scale).map g).Sublist (s.elements.map g) := by
  unfold survivors
  induction s.elements with
  | nil => simp
  | cons e es ih =>
    cases hf : firsts.find? (·.key = e.key) with
    | none => simpa [hf] using ih.cons (g e)
    | some f =>
      have hk : f.key = e.key := by simpa using List.find?_some hf
      simpa [hf, h e f hk] using ih.cons_cons (g e)

theorem survivors_keys_sublist (s : Scene) (firsts : List Firing) (scale : Scale) :
    ((s.survivors firsts scale).map Element.key).Sublist (s.elements.map Element.key) :=
  survivors_sublist s firsts scale Element.key fun _ _ h => h

theorem survivors_ids_sublist (s : Scene) (firsts : List Firing) (scale : Scale) :
    ((s.survivors firsts scale).map Element.id).Sublist (s.elements.map Element.id) :=
  survivors_sublist s firsts scale Element.id fun _ _ _ => rfl

/-- The scene after reconciling it with firings, whose fills are taken from a scale. -/
def redraw (s : Scene) (firings : List Firing) (scale : Scale) : Scene :=
  let firsts := firstPerKey firings
  { elements := s.survivors firsts scale ++ entering scale s.nextId (s.newcomers firsts)
    nextId := s.nextId + (s.newcomers firsts).length
    keys_nodup := by
      rw [List.map_append, entering_map_key, List.nodup_append]
      refine ⟨s.keys_nodup.sublist (survivors_keys_sublist ..),
        (firstPerKey_keys_nodup firings).sublist (List.Sublist.map _ List.filter_sublist), ?_⟩
      rintro k hk _ hn rfl
      obtain ⟨e, he, rfl⟩ := List.mem_map.1 ((survivors_keys_sublist ..).subset hk)
      obtain ⟨f, hf, hfe⟩ := List.mem_map.1 hn
      have hnone : s.byKey? f.key = none := by simpa using (List.mem_filter.1 hf).2
      exact (List.find?_eq_none.1 hnone e he) (by simp [hfe])
    ids_nodup := by
      rw [List.map_append, entering_map_id, List.nodup_append]
      refine ⟨s.ids_nodup.sublist (survivors_ids_sublist ..), List.nodup_range', ?_⟩
      rintro i hi _ hn rfl
      obtain ⟨e, he, rfl⟩ := List.mem_map.1 ((survivors_ids_sublist ..).subset hi)
      have := s.id_lt_nextId e he
      have := (List.mem_range'_1.1 hn).1
      omega
    id_lt_nextId := by
      intro e he
      have he := List.mem_map_of_mem (f := Element.id) he
      rw [List.map_append, entering_map_id, List.mem_append, List.mem_range'_1] at he
      rcases he with he | he
      · obtain ⟨e', he', hid⟩ := List.mem_map.1 ((survivors_ids_sublist ..).subset he)
        have := s.id_lt_nextId e' he'
        omega
      · exact he.2 }

/-- What reconciling a scene with firings does to its elements. Survivors and newcomers are listed
in the order of the firings, and those that exit in document order. -/
def reconciliation (s : Scene) (firings : List Firing) : Reconciliation :=
  let firsts := firstPerKey firings
  { entered := List.range' s.nextId (s.newcomers firsts).length
    updated := (firsts.filterMap fun f => s.byKey? f.key).map Element.id
    exited := s.idsWhere fun e => (firsts.find? (·.key = e.key)).isNone }

/-- Reconciles a scene with firings. -/
def reconcile (s : Scene) (firings : List Firing) (scale : Scale) : Scene × Reconciliation :=
  (s.redraw firings scale, s.reconciliation firings)

end Scene

end CronHeatMap
