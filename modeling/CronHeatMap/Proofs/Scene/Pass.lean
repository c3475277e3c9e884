import CronHeatMap.Proofs.Scene

/-!
# Reconciling in one pass

A scene can be reconciled with firings by changing it step by step: the elements without a firing
are taken out, and then one firing after the other is brought in. A firing whose key has come before
is passed over, a firing whose key has an element is shown by this element, and any other firing
gets a new element at the end. `Pass.Fits` is what holds of the scene and of the reports after each
firing. At the end of the pass it is the join of the scene with all the firings
(`pass_eq_reconcile`).
-/

namespace CronHeatMap

variable {fs done : List Firing} {f : Firing} {scale : Scale}

/-! ### One more firing -/

/-- One more firing is the first for its key if its key has not come before. -/
lemma firstPerKey_concat (fs : List Firing) (f : Firing) :
    firstPerKey (fs ++ [f]) =
      if f.key ∈ fs.map Firing.key then firstPerKey fs else firstPerKey fs ++ [f] := by
  induction fs with
  | nil => simp [firstPerKey]
  | cons g fs ih =>
    rw [List.cons_append, firstPerKey, ih, firstPerKey]
    by_cases hmem : f.key ∈ fs.map Firing.key
    · have hmem' : f.key ∈ (g :: fs).map Firing.key := List.mem_cons_of_mem _ hmem
      rw [if_pos hmem, if_pos hmem']
    · rw [if_neg hmem, List.filter_append]
      by_cases hkey : f.key = g.key
      · simp [hkey]
      · have hmem' : f.key ∉ (g :: fs).map Firing.key := by
          rw [List.map_cons, List.mem_cons, not_or]
          exact ⟨hkey, hmem⟩
        rw [if_neg hmem']
        simp [hkey]

namespace Element

variable {e : Element}

/-- The element when it shows the first of some firings with its key, if there is one. -/
def displayFirst (scale : Scale) (fs : List Firing) (e : Element) : Element :=
  ((fs.find? (·.key = e.key)).map (e.display scale)).getD e

lemma displayFirst_of_find? (hf : fs.find? (·.key = e.key) = some f) :
    e.displayFirst scale fs = e.display scale f := by
  rw [displayFirst, hf]
  rfl

lemma displayFirst_of_notMem (hkey : e.key ∉ fs.map Firing.key) :
    e.displayFirst scale fs = e := by
  have hnone : fs.find? (·.key = e.key) = none := by simpa using hkey
  rw [displayFirst, hnone]
  rfl

lemma key_displayFirst (scale : Scale) (fs : List Firing) (e : Element) :
    (e.displayFirst scale fs).key = e.key := by
  cases hf : fs.find? (·.key = e.key) with
  | none =>
    rw [displayFirst, hf]
    rfl
  | some f =>
    rw [displayFirst_of_find? hf]
    have hkey : f.key = e.key := by simpa using List.find?_some hf
    exact hkey

lemma id_displayFirst (scale : Scale) (fs : List Firing) (e : Element) :
    (e.displayFirst scale fs).id = e.id := by
  cases hf : fs.find? (·.key = e.key) with
  | none =>
    rw [displayFirst, hf]
    rfl
  | some f =>
    rw [displayFirst_of_find? hf]
    rfl

/-- A firing that is not the first for the key of an element changes nothing for it. -/
lemma displayFirst_concat_of_imp (hkey : e.key = f.key → f.key ∈ fs.map Firing.key) :
    e.displayFirst scale (fs ++ [f]) = e.displayFirst scale fs := by
  have hfound : (fs ++ [f]).find? (·.key = e.key) = fs.find? (·.key = e.key) := by
    rw [List.find?_append]
    by_cases hmem : e.key ∈ fs.map Firing.key
    · obtain ⟨g, hg, hgkey⟩ := List.mem_map.1 hmem
      have hsome : (fs.find? (·.key = e.key)).isSome = true :=
        List.find?_isSome.2 ⟨g, hg, by simpa using hgkey⟩
      rw [Option.or_of_isSome hsome]
    · have hne : f.key ≠ e.key := fun heq => hmem (heq ▸ hkey heq.symm)
      simp [hne]
  rw [displayFirst, displayFirst, hfound]

/-- The first firing for the key of an element is shown by it. -/
lemma displayFirst_concat_of_eq (hkey : e.key = f.key) (hnew : f.key ∉ fs.map Firing.key) :
    e.displayFirst scale (fs ++ [f]) = e.display scale f := by
  have hnone : fs.find? (·.key = e.key) = none := by simpa [hkey] using hnew
  apply displayFirst_of_find?
  rw [List.find?_append, hnone]
  simp [hkey]

/-- The element after one more firing, which it shows if it has its key. -/
def receive (scale : Scale) (f : Firing) (e : Element) : Element :=
  if e.key = f.key then e.display scale f else e

@[simp] lemma key_receive (scale : Scale) (f : Firing) (e : Element) :
    (e.receive scale f).key = e.key := by
  rw [receive]
  split_ifs with hkey
  · exact hkey.symm
  · rfl

@[simp] lemma id_receive (scale : Scale) (f : Firing) (e : Element) :
    (e.receive scale f).id = e.id := by
  rw [receive]
  split_ifs <;> rfl

end Element

namespace Scene

variable {s s' : Scene} {key : String}

/-- Scenes with the same elements that go on with the same number are the same. -/
lemma eq_of_elements_eq (helements : s.elements = s'.elements) (hnextId : s.nextId = s'.nextId) :
    s = s' := by
  cases s
  cases s'
  simp_all

/-- The keys of the elements, in document order. -/
abbrev keys (s : Scene) : List String := s.elements.map Element.key

lemma byKey?_eq_none_iff : s.byKey? key = none ↔ key ∉ s.keys := by
  simp [byKey?]

/-- Elements with the same key in both scenes are found alike. -/
lemma byKey?_congr (hmem : ∀ e, e.key = key → (e ∈ s.elements ↔ e ∈ s'.elements)) :
    s.byKey? key = s'.byKey? key := by
  apply Option.ext
  intro e
  rw [byKey?_eq_some_iff, byKey?_eq_some_iff]
  exact and_congr_left fun hkey => hmem e hkey

lemma entering_concat (scale : Scale) (id : ElementId) (fs : List Firing) (f : Firing) :
    entering scale id (fs ++ [f]) =
      entering scale id fs ++ [Element.enter scale (id + fs.length) f] := by
  induction fs generalizing id with
  | nil => rfl
  | cons g fs ih =>
    rw [List.cons_append, entering, entering, ih, List.length_cons, List.cons_append,
      Nat.add_right_comm, Nat.add_assoc]

/-- An element that enters has the key of one of the firings. -/
lemma key_mem_of_mem_entering {id : ElementId} {e : Element}
    (he : e ∈ entering scale id (s.newcomers (firstPerKey fs))) :
    e.key ∈ fs.map Firing.key := by
  obtain ⟨f, hf, henter⟩ := exists_of_mem_entering he
  rw [← mem_keys_firstPerKey, henter]
  exact List.mem_map_of_mem (List.mem_filter.1 hf).1

/-! ### Changing a scene step by step -/

/-- The scene with those of its elements that satisfy `p`. -/
def retain (s : Scene) (p : Element → Bool) : Scene :=
  { s with
    elements := s.elements.filter p
    keys_nodup := s.keys_nodup.sublist (List.filter_sublist.map _)
    ids_nodup := s.ids_nodup.sublist (List.filter_sublist.map _)
    id_lt_nextId := fun e he => s.id_lt_nextId e (List.mem_filter.1 he).1 }

/-- The scene in which the element with the key of a firing shows this firing. -/
def updateWith (s : Scene) (scale : Scale) (f : Firing) : Scene :=
  { s with
    elements := s.elements.map (·.receive scale f)
    keys_nodup := by simpa [Function.comp_def] using s.keys_nodup
    ids_nodup := by simpa [Function.comp_def] using s.ids_nodup
    id_lt_nextId := by
      rw [List.forall_mem_map]
      intro e he
      rw [Element.id_receive]
      exact s.id_lt_nextId e he }

/-- The scene with one more element, for a firing whose key has no element yet. -/
def enter (s : Scene) (scale : Scale) (f : Firing) (hnew : s.byKey? f.key = none) : Scene where
  elements := s.elements ++ [Element.enter scale s.nextId f]
  nextId := s.nextId + 1
  keys_nodup := by
    rw [List.map_append, List.map_singleton, ← List.concat_eq_append, List.nodup_concat]
    exact ⟨byKey?_eq_none_iff.1 hnew, s.keys_nodup⟩
  ids_nodup := by
    rw [List.map_append, List.map_singleton, ← List.concat_eq_append, List.nodup_concat]
    refine ⟨fun hid => ?_, s.ids_nodup⟩
    obtain ⟨e, he, heid⟩ := List.mem_map.1 hid
    exact Nat.ne_of_lt (s.id_lt_nextId e he) heid
  id_lt_nextId := by
    rw [List.forall_mem_append, List.forall_mem_singleton]
    exact ⟨fun e he => Nat.lt_succ_of_lt (s.id_lt_nextId e he), Nat.lt_succ_self _⟩

/-- How far a pass over firings has come. -/
structure Pass where
  scene : Scene
  /-- The keys that have come so far. -/
  seen : List String := []
  touched : Reconciliation := {}

namespace Pass

/-- Before the first firing: the elements without a firing have exited. -/
def start (s : Scene) (fs : List Firing) : Pass where
  scene := s.retain (·.key ∈ fs.map Firing.key)
  touched := { exited := s.idsWhere (·.key ∉ fs.map Firing.key) }

/-- The element with the key of a firing shows it. -/
def update (p : Pass) (scale : Scale) (f : Firing) (e : Element) : Pass where
  scene := p.scene.updateWith scale f
  seen := f.key :: p.seen
  touched := { p.touched with updated := p.touched.updated ++ [e.id] }

/-- A new element shows a firing. -/
def enter (p : Pass) (scale : Scale) (f : Firing) (hnew : p.scene.byKey? f.key = none) : Pass where
  scene := p.scene.enter scale f hnew
  seen := f.key :: p.seen
  touched := { p.touched with entered := p.touched.entered ++ [p.scene.nextId] }

/-- Brings in one firing. -/
def step (scale : Scale) (p : Pass) (f : Firing) : Pass :=
  if f.key ∈ p.seen then p
  else
    match hfound : p.scene.byKey? f.key with
    | some e => p.update scale f e
    | none => p.enter scale f hfound

variable {p : Pass} {e : Element}

lemma step_of_seen (hseen : f.key ∈ p.seen) : p.step scale f = p := if_pos hseen

lemma step_of_found (hseen : f.key ∉ p.seen) (hfound : p.scene.byKey? f.key = some e) :
    p.step scale f = p.update scale f e := by
  rw [step, if_neg hseen]
  split
  · rename_i e' hfound'
    rw [Option.some_inj.1 (hfound.symm.trans hfound')]
  · rename_i hnone
    rw [hfound] at hnone
    cases hnone

lemma step_of_new (hseen : f.key ∉ p.seen) (hnew : p.scene.byKey? f.key = none) :
    p.step scale f = p.enter scale f hnew := by
  rw [step, if_neg hseen]
  split
  · rename_i e' hfound'
    rw [hnew] at hfound'
    cases hfound'
  · rfl

/-! ### After each firing -/

/-- A pass that began with the scene `s` has brought in the firings `done`: the elements of `s` show
the first of these firings with their keys, and the keys without an element have got one. -/
structure Fits (s : Scene) (scale : Scale) (exited : List ElementId) (done : List Firing)
    (p : Pass) : Prop where
  elements_eq : p.scene.elements = s.elements.map (·.displayFirst scale done) ++
    entering scale s.nextId (s.newcomers (firstPerKey done))
  nextId_eq : p.scene.nextId = s.nextId + (s.newcomers (firstPerKey done)).length
  mem_seen : ∀ key, key ∈ p.seen ↔ key ∈ done.map Firing.key
  touched_eq : p.touched =
    { entered := List.range' s.nextId (s.newcomers (firstPerKey done)).length
      updated := ((firstPerKey done).filterMap fun f => s.byKey? f.key).map Element.id
      exited }

namespace Fits

variable {exited : List ElementId}

/-- A key that has not come yet finds what it would have found at first. -/
lemma byKey?_eq (hp : p.Fits s scale exited done) (hkey : key ∉ done.map Firing.key) :
    p.scene.byKey? key = s.byKey? key := by
  apply byKey?_congr
  rintro e rfl
  rw [hp.elements_eq, List.mem_append, List.mem_map]
  constructor
  · rintro (⟨e₀, he₀, rfl⟩ | henters)
    · rw [Element.key_displayFirst] at hkey
      rwa [Element.displayFirst_of_notMem hkey]
    · exact absurd (key_mem_of_mem_entering henters) hkey
  · intro he
    exact Or.inl ⟨e, he, Element.displayFirst_of_notMem hkey⟩

/-- A firing is passed over. -/
lemma step_seen (hp : p.Fits s scale exited done) (hkey : f.key ∈ done.map Firing.key) :
    p.Fits s scale exited (done ++ [f]) := by
  have hfirst : firstPerKey (done ++ [f]) = firstPerKey done := by
    rw [firstPerKey_concat, if_pos hkey]
  refine ⟨?_, ?_, ?_, ?_⟩
  · rw [hp.elements_eq, hfirst]
    congr 1
    apply List.map_congr_left
    intro e _
    rw [Element.displayFirst_concat_of_imp fun _ => hkey]
  · rw [hp.nextId_eq, hfirst]
  · intro key
    rw [hp.mem_seen, List.map_append, List.mem_append, List.map_singleton, List.mem_singleton]
    constructor
    · exact Or.inl
    · rintro (hmem | rfl)
      · exact hmem
      · exact hkey
  · rw [hp.touched_eq, hfirst]

/-- A firing is shown by the element with its key. -/
lemma step_found (hp : p.Fits s scale exited done) (hkey : f.key ∉ done.map Firing.key)
    (hfound : s.byKey? f.key = some e) :
    (p.update scale f e).Fits s scale exited (done ++ [f]) := by
  have hfirst : firstPerKey (done ++ [f]) = firstPerKey done ++ [f] := by
    rw [firstPerKey_concat, if_neg hkey]
  have hnewcomers : s.newcomers (firstPerKey (done ++ [f])) = s.newcomers (firstPerKey done) := by
    rw [hfirst, newcomers, List.filter_append]
    simp [newcomers, hfound]
  refine ⟨?_, ?_, ?_, ?_⟩
  · show p.scene.elements.map _ = _
    rw [hp.elements_eq, hnewcomers, List.map_append, List.map_map]
    congr 1
    · apply List.map_congr_left
      intro e₀ _
      rw [Function.comp_apply, Element.receive, Element.key_displayFirst]
      split_ifs with hkey₀
      · rw [Element.displayFirst_concat_of_eq hkey₀ hkey,
          Element.displayFirst_of_notMem (hkey₀ ▸ hkey)]
      · rw [Element.displayFirst_concat_of_imp fun heq => absurd heq hkey₀]
    · refine (List.map_congr_left fun e' he' => ?_).trans (List.map_id _)
      have hne : e'.key ≠ f.key := fun heq => hkey (heq ▸ key_mem_of_mem_entering he')
      exact if_neg hne
  · rw [hnewcomers]
    exact hp.nextId_eq
  · intro key
    simp [update, hp.mem_seen, or_comm]
  · rw [update, hnewcomers, hp.touched_eq, hfirst, List.filterMap_append, List.map_append]
    simp [hfound]

/-- A firing gets a new element. -/
lemma step_new (hp : p.Fits s scale exited done) (hkey : f.key ∉ done.map Firing.key)
    (hnew : s.byKey? f.key = none) (hnew' : p.scene.byKey? f.key = none) :
    (p.enter scale f hnew').Fits s scale exited (done ++ [f]) := by
  have hfirst : firstPerKey (done ++ [f]) = firstPerKey done ++ [f] := by
    rw [firstPerKey_concat, if_neg hkey]
  have hnewcomers : s.newcomers (firstPerKey (done ++ [f])) =
      s.newcomers (firstPerKey done) ++ [f] := by
    rw [hfirst, newcomers, List.filter_append]
    simp [newcomers, hnew]
  refine ⟨?_, ?_, ?_, ?_⟩
  · show p.scene.elements ++ _ = _
    rw [hp.elements_eq, hp.nextId_eq, hnewcomers, entering_concat, List.append_assoc]
    congr 1
    apply List.map_congr_left
    intro e he
    have hne : e.key ≠ f.key := by
      rintro heq
      exact byKey?_eq_none_iff.1 hnew (heq ▸ List.mem_map_of_mem he)
    rw [Element.displayFirst_concat_of_imp fun heq => absurd heq hne]
  · show p.scene.nextId + 1 = _
    rw [hp.nextId_eq, hnewcomers, List.length_append, List.length_singleton, Nat.add_assoc]
  · intro key
    simp [enter, hp.mem_seen, or_comm]
  · rw [enter, hnewcomers, hp.touched_eq, hp.nextId_eq, hfirst, List.filterMap_append,
      List.map_append]
    simp [hnew, List.range'_concat]

/-- Every firing is brought in. -/
lemma step (hp : p.Fits s scale exited done) (f : Firing) :
    (p.step scale f).Fits s scale exited (done ++ [f]) := by
  by_cases hkey : f.key ∈ done.map Firing.key
  · rw [step_of_seen ((hp.mem_seen _).2 hkey)]
    exact hp.step_seen hkey
  · have hseen : f.key ∉ p.seen := fun hmem => hkey ((hp.mem_seen _).1 hmem)
    cases hfound : s.byKey? f.key with
    | some e =>
      rw [step_of_found hseen ((hp.byKey?_eq hkey).trans hfound)]
      exact hp.step_found hkey hfound
    | none =>
      rw [step_of_new hseen ((hp.byKey?_eq hkey).trans hfound)]
      exact hp.step_new hkey hfound _

/-- What fits after each firing fits after all of them. -/
lemma foldl (hp : p.Fits s scale exited done) (fs : List Firing) :
    (fs.foldl (Pass.step scale) p).Fits s scale exited (done ++ fs) := by
  induction fs generalizing p done with
  | nil => rwa [List.append_nil]
  | cons f fs ih =>
    rw [List.foldl_cons, List.append_cons]
    exact ih (hp.step f)

end Fits

lemma fits_start (s : Scene) (scale : Scale) (fs : List Firing) :
    (start s fs).Fits (s.retain (·.key ∈ fs.map Firing.key)) scale
      (s.idsWhere (·.key ∉ fs.map Firing.key)) [] := by
  have helements : ∀ s : Scene, s.elements.map (·.displayFirst scale []) = s.elements := by
    intro s
    simp [Element.displayFirst]
  refine ⟨?_, ?_, ?_, ?_⟩
  · rw [helements]
    simp [start, firstPerKey, newcomers, entering]
  · simp [start, firstPerKey, newcomers]
  · simp [start]
  · simp [start, firstPerKey, newcomers]

end Pass

/-! ### The whole pass -/

/-- The scene after a pass over firings, and what the pass has touched. -/
def pass (s : Scene) (fs : List Firing) (scale : Scale) : Scene × Reconciliation :=
  let p := fs.foldl (Pass.step scale) (.start s fs)
  (p.scene, p.touched)

/-- An element has a first firing exactly if its key is among the firings. -/
lemma isNone_find?_firstPerKey (fs : List Firing) (key : String) :
    ((firstPerKey fs).find? (·.key = key)).isNone = decide (key ∉ fs.map Firing.key) := by
  rw [find?_firstPerKey, Bool.eq_iff_iff]
  simp

/-- A key of the firings finds the same element when those without a firing are gone. -/
lemma byKey?_retain (hkey : key ∈ fs.map Firing.key) :
    (s.retain (·.key ∈ fs.map Firing.key)).byKey? key = s.byKey? key := by
  apply byKey?_congr
  rintro e rfl
  rw [retain, List.mem_filter]
  exact and_iff_left (decide_eq_true hkey)

lemma survivors_firstPerKey (s : Scene) (fs : List Firing) (scale : Scale) :
    s.survivors (firstPerKey fs) scale =
      (s.retain (·.key ∈ fs.map Firing.key)).elements.map (·.displayFirst scale fs) := by
  rw [survivors, retain, ← List.filterMap_eq_map, List.filterMap_filter]
  apply List.filterMap_congr
  intro e _
  rw [find?_firstPerKey]
  cases hf : fs.find? (·.key = e.key) with
  | none =>
    have hkey : e.key ∉ fs.map Firing.key := by simpa using hf
    simp [hkey]
  | some f =>
    have hkey : e.key ∈ fs.map Firing.key :=
      List.mem_map.2 ⟨f, List.mem_of_find?_eq_some hf, by simpa using List.find?_some hf⟩
    simp [hkey, Element.displayFirst_of_find? hf]

/-- A pass over firings is the join with them by key. -/
lemma pass_eq_reconcile (s : Scene) (fs : List Firing) (scale : Scale) :
    s.pass fs scale = s.reconcile fs scale := by
  have hp := (Pass.fits_start s scale fs).foldl fs
  rw [List.nil_append] at hp
  -- Whether a firing has an element is not changed by those that have exited before the pass.
  have hfound : ∀ f ∈ firstPerKey fs,
      (s.retain (·.key ∈ fs.map Firing.key)).byKey? f.key = s.byKey? f.key := by
    intro f hf
    exact byKey?_retain (mem_keys_firstPerKey.1 (List.mem_map_of_mem hf))
  have hnewcomers : (s.retain (·.key ∈ fs.map Firing.key)).newcomers (firstPerKey fs) =
      s.newcomers (firstPerKey fs) := by
    apply List.filter_congr
    intro f hf
    rw [hfound f hf]
  apply Prod.ext
  · apply eq_of_elements_eq
    · show (fs.foldl (Pass.step scale) (.start s fs)).scene.elements = _
      rw [hp.elements_eq, hnewcomers, ← survivors_firstPerKey]
      rfl
    · show (fs.foldl (Pass.step scale) (.start s fs)).scene.nextId = _
      rw [hp.nextId_eq, hnewcomers]
      rfl
  · show (fs.foldl (Pass.step scale) (.start s fs)).touched = _
    rw [hp.touched_eq, hnewcomers, List.filterMap_congr hfound]
    simp only [reconcile, reconciliation, isNone_find?_firstPerKey]
    rfl

end Scene

end CronHeatMap
