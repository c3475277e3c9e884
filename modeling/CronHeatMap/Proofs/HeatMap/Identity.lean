import CronHeatMap.Proofs.HeatMap.Highlight

/-!
# The numbers of elements over whole runs

An element keeps its number for as long as its key is drawn, and the number is not given out again
afterwards. What one operation does to the numbers is said by `Scene.ContinuedBy`: of the numbers
that were given out before, it may drop some, but it neither moves one to another key nor brings one
back. This carries over to runs, and `elements_keep_identity` reads off what it means for three
moments of a run.
-/

namespace CronHeatMap

namespace Scene

variable {s s' s'' : Scene} {id : ElementId} {key : String}

/-! ### Numbers and keys -/

/-- An element of the scene has this number and this key. -/
def Shows (s : Scene) (id : ElementId) (key : String) : Prop :=
  ∃ e ∈ s.elements, e.id = id ∧ e.key = key

instance (s : Scene) (id : ElementId) (key : String) : Decidable (s.Shows id key) :=
  inferInstanceAs (Decidable (∃ e ∈ s.elements, _))

lemma contains_iff_exists_shows : s.Contains id ↔ ∃ key, s.Shows id key := by
  constructor
  · rintro ⟨e, he, rfl⟩
    exact ⟨e.key, e, he, rfl, rfl⟩
  · rintro ⟨-, e, he, hid, -⟩
    exact ⟨e, he, hid⟩

lemma Shows.contains (hs : s.Shows id key) : s.Contains id :=
  contains_iff_exists_shows.2 ⟨key, hs⟩

lemma Contains.lt_nextId (hs : s.Contains id) : id < s.nextId := by
  obtain ⟨e, he, rfl⟩ := hs
  exact s.id_lt_nextId e he

/-- No two elements have the same number, so that a number has one key at a time. -/
lemma Shows.key_eq {key' : String} (hs : s.Shows id key) (hs' : s.Shows id key') : key = key' := by
  obtain ⟨e, he, rfl, rfl⟩ := hs
  obtain ⟨e', he', hid, rfl⟩ := hs'
  rw [List.inj_on_of_nodup_map s.ids_nodup he' he hid]

@[simp] lemma shows_mark {f : Element → Marks} : (s.mark f).Shows id key ↔ s.Shows id key := by
  simp [Shows, Element.key]

@[simp] lemma nextId_mark (s : Scene) (f : Element → Marks) : (s.mark f).nextId = s.nextId := rfl

/-- Only the marks that the elements of the scene are given matter. -/
lemma mark_congr {f g : Element → Marks} (hfg : ∀ e ∈ s.elements, f e = g e) :
    s.mark f = s.mark g := by
  simp only [mark, Scene.mk.injEq, and_true]
  exact List.map_congr_left fun e he => by rw [hfg e he]

/-! ### One step -/

/-- The numbers given out in `s` belong to the same keys in `s'`, or to none any more. -/
structure ContinuedBy (s s' : Scene) : Prop where
  nextId_le : s.nextId ≤ s'.nextId
  shows_of_shows : ∀ id key, id < s.nextId → s'.Shows id key → s.Shows id key

namespace ContinuedBy

lemma refl (s : Scene) : s.ContinuedBy s where
  nextId_le := Nat.le_refl _
  shows_of_shows _ _ _ hs := hs

lemma trans (h : s.ContinuedBy s') (h' : s'.ContinuedBy s'') : s.ContinuedBy s'' where
  nextId_le := h.nextId_le.trans h'.nextId_le
  shows_of_shows id key hid hs :=
    h.shows_of_shows id key hid (h'.shows_of_shows id key (hid.trans_le h.nextId_le) hs)

lemma mark (s : Scene) (f : Element → Marks) : s.ContinuedBy (s.mark f) where
  nextId_le := Nat.le_refl _
  shows_of_shows _ _ _ hs := shows_mark.1 hs

lemma redraw (s : Scene) (firings : List Firing) (scale : Scale) :
    s.ContinuedBy (s.redraw firings scale) where
  nextId_le := Nat.le_add_right ..
  shows_of_shows := by
    rintro _ _ hid ⟨e, he, rfl, rfl⟩
    rcases exists_of_mem_redraw he with ⟨e₀, he₀, hid₀, hkey₀, -⟩ | ⟨hentered, -⟩
    · exact ⟨e₀, he₀, hid₀, hkey₀⟩
    · exact absurd (List.mem_range'_1.1 hentered).1 (Nat.not_le.2 hid)

end ContinuedBy

/-- A number has the same key at both times. -/
lemma ContinuedBy.key_eq {key' : String} (h : s.ContinuedBy s') (hs : s.Shows id key)
    (hs' : s'.Shows id key') : key = key' :=
  hs.key_eq (h.shows_of_shows id key' hs.contains.lt_nextId hs')

/-- An element whose number was given out before a time was there at this time if it is there
later. -/
lemma ContinuedBy.shows_of_given_out (h : s'.ContinuedBy s'') (h₀ : s.ContinuedBy s')
    (hs : s.Contains id) (hs'' : s''.Shows id key) : s'.Shows id key :=
  h.shows_of_shows id key (hs.lt_nextId.trans_le h₀.nextId_le) hs''

/-- The numbers that a reconciliation gives out are those of elements that enter. -/
lemma contains_redraw_of_nextId_le {firings : List Firing} {scale : Scale} (hle : s.nextId ≤ id)
    (hlt : id < (s.redraw firings scale).nextId) : (s.redraw firings scale).Contains id := by
  have hid : id ∈ (entering scale s.nextId (s.newcomers (firstPerKey firings))).map Element.id := by
    rw [entering_map_id, List.mem_range'_1]
    exact ⟨hle, hlt⟩
  obtain ⟨e, he, rfl⟩ := List.mem_map.1 hid
  exact ⟨e, List.mem_append_right _ he, rfl⟩

end Scene

namespace HeatMap

variable {h : HeatMap} {id : ElementId}

/-! ### One operation -/

/-- An operation marks elements, or it marks elements and then reconciles them with firings. -/
lemma scene_act_cases (h : HeatMap) (op : Operation) :
    (∃ f, (h.act op).scene = h.scene.mark f) ∨
      ∃ f firings scale, (h.act op).scene = (h.scene.mark f).redraw firings scale := by
  have hsame : ∀ h' : HeatMap, h.SameHighlight h' → ∃ f, h'.scene = h.scene.mark f :=
    fun _ hs => hs.scene_eq.imp fun _ => And.right
  cases op with
  | draw firings =>
    obtain ⟨f, hf⟩ := hsame _ h.sameHighlight_unfreeze
    refine Or.inr ⟨fun e => { f e with highlighted := false }, busiestFirst firings,
      .select (busiestFirst firings), ?_⟩
    rw [act, scene_draw, clearHighlight, hf, Scene.clearHighlights, Scene.mark_mark]
  | hover cell => exact Or.inl (hsame _ (h.sameHighlight_hover cell))
  | leave cell => exact Or.inl (hsame _ (h.sameHighlight_leave cell))
  | click cell => exact Or.inl (hsame _ (h.sameHighlight_click cell))
  | unfreeze => exact Or.inl (hsame _ h.sameHighlight_unfreeze)
  | setListing expressions => exact Or.inl ⟨_, rfl⟩
  | toggleHighlight i =>
    refine Or.inl ?_
    rcases h.toggle_cases i with hi | hi | ⟨entry, hentry, hi⟩
    · exact ⟨_, by rw [act, toggleHighlight_of_length_le hi, Scene.mark_marks]⟩
    · exact ⟨_, by rw [act, toggleHighlight_of_picked hi]; rfl⟩
    · have hmarked := toggleHighlight_of_not_picked hentry hi
      exact ⟨_, (congrArg (·.2.scene) hmarked).trans (Scene.mark_mark ..)⟩
  | clearHighlight => exact Or.inl ⟨_, rfl⟩
  | setZone zone => exact Or.inl ⟨_, h.scene.mark_marks.symm⟩
  | setReferenceDate text today => exact Or.inl ⟨_, h.scene.mark_marks.symm⟩

lemma continuedBy_act (h : HeatMap) (op : Operation) : h.scene.ContinuedBy (h.act op).scene := by
  rcases h.scene_act_cases op with ⟨f, hscene⟩ | ⟨f, firings, scale, hscene⟩
  · rw [hscene]
    exact .mark h.scene f
  · rw [hscene]
    exact (Scene.ContinuedBy.mark h.scene f).trans (.redraw ..)

/-- A number that an operation gives out is afterwards the number of an element. -/
lemma contains_act_of_nextId_le {op : Operation} (hle : h.scene.nextId ≤ id)
    (hlt : id < (h.act op).scene.nextId) : (h.act op).scene.Contains id := by
  rcases h.scene_act_cases op with ⟨f, hscene⟩ | ⟨f, firings, scale, hscene⟩
  · rw [hscene, Scene.nextId_mark] at hlt
    exact absurd hle (Nat.not_le.2 hlt)
  · rw [hscene] at hlt ⊢
    exact Scene.contains_redraw_of_nextId_le hle hlt

/-! ### Runs -/

lemma continuedBy_after (h : HeatMap) (ops : List Operation) :
    h.scene.ContinuedBy (h.after ops).scene :=
  after_invariant (I := fun h' => h.scene.ContinuedBy h'.scene) (.refl h.scene)
    (fun h' op hh' => hh'.trans (h'.continuedBy_act op)) ops

/-- Of two moments of a run, the later one continues the earlier one. -/
lemma continuedBy_take {m n : Nat} (h : HeatMap) (ops : List Operation) (hmn : m ≤ n) :
    (h.after (ops.take m)).scene.ContinuedBy (h.after (ops.take n)).scene := by
  obtain ⟨k, rfl⟩ := Nat.exists_eq_add_of_le hmn
  rw [List.take_add, after_append]
  exact continuedBy_after ..

/-- In a run from the blank heat map, each number that was given out was once that of an element. -/
lemma exists_contains_of_lt_nextId (today : Date) (zone : Zone) (ops : List Operation) (n : Nat)
    (hid : id < ((blank today zone).after (ops.take n)).scene.nextId) :
    ∃ m, ((blank today zone).after (ops.take m)).scene.Contains id := by
  induction n with
  | zero => exact absurd hid (Nat.not_lt_zero id)
  | succ n ih =>
    rcases Nat.lt_or_ge id ((blank today zone).after (ops.take n)).scene.nextId with hlt | hle
    · exact ih hlt
    · refine ⟨n + 1, ?_⟩
      rw [List.take_add, after_append] at hid ⊢
      -- Either the run is over, or there is one more operation.
      cases hop : (ops.drop n) with
      | nil =>
        rw [hop] at hid
        exact absurd hle (Nat.not_le.2 hid)
      | cons op rest =>
        rw [hop] at hid
        exact contains_act_of_nextId_le hle hid

/-! ### Numbers without an element -/

/-- Whatever is done with the number has no effect. -/
structure Ignores (h : HeatMap) (id : ElementId) : Prop where
  byId?_eq : h.scene.byId? id = none
  hover_eq : h.hover id = (false, h)
  click_eq : h.click id = (none, h)
  setLocked_eq : ∀ on, h.scene.setLocked id on = h.scene
  setHighlighted_eq : ∀ ids on,
    h.scene.setHighlighted (id :: ids) on = h.scene.setHighlighted ids on

lemma ignores_of_not_contains (hid : ¬ h.scene.Contains id) : h.Ignores id := by
  have hne : ∀ e ∈ h.scene.elements, e.id ≠ id := fun e he heq => hid ⟨e, he, heq⟩
  have hnone : h.scene.byId? id = none := by simpa [Scene.byId?] using hne
  refine ⟨hnone, ?_, ?_, ?_, ?_⟩
  · simp only [hover, hnone]
  · rw [click, if_neg hid]
  · intro on
    calc h.scene.setLocked id on
        = h.scene.mark Element.marks := Scene.mark_congr fun e he => if_neg (hne e he)
      _ = h.scene := h.scene.mark_marks
  · intro ids on
    apply Scene.mark_congr
    intro e he
    simp only [List.mem_cons, hne e he, false_or]

/-! ### Three moments of a run -/

/-- Along a sequence of heat maps, each number belongs to one key, and to none any more once its
element has exited. -/
structure KeepsIdentity (h : Nat → HeatMap) : Prop where
  /-- No two elements have the same number. -/
  ids_nodup : ∀ n, ((h n).scene.elements.map Element.id).Nodup
  id_lt_nextId : ∀ n, ∀ e ∈ (h n).scene.elements, e.id < (h n).scene.nextId
  /-- A number that was given out belongs to one and the same key at all times. -/
  existsUnique_key : ∀ n, ∀ id < (h n).scene.nextId, ∃! key, ∃ m, (h m).scene.Shows id key
  /-- An element that is there at two times is there at all times in between, with the same key. -/
  shows_between : ∀ l m n id key, l ≤ m → m ≤ n → (h l).scene.Shows id key →
    (h n).scene.Contains id → (h m).scene.Shows id key
  /-- The number of an element that has exited is without effect ever after. -/
  ignores_exited : ∀ l m n id, l ≤ m → m ≤ n → (h l).scene.Contains id →
    ¬ (h m).scene.Contains id → (h n).Ignores id

/-- Whatever is done to a heat map, an element keeps its number for as long as its key is drawn, and
no other element has this number before or after. -/
theorem elements_keep_identity (today : Date) (zone : Zone) (ops : List Operation) :
    KeepsIdentity fun n => (blank today zone).after (ops.take n) := by
  have hcont : ∀ {m n}, m ≤ n → ((blank today zone).after (ops.take m)).scene.ContinuedBy
      ((blank today zone).after (ops.take n)).scene := fun hmn => continuedBy_take _ ops hmn
  constructor
  · exact fun n => Scene.ids_nodup _
  · exact fun n => Scene.id_lt_nextId _
  · intro n id hid
    obtain ⟨m, hm⟩ := exists_contains_of_lt_nextId today zone ops n hid
    obtain ⟨key, hkey⟩ := Scene.contains_iff_exists_shows.1 hm
    refine ⟨key, ⟨m, hkey⟩, ?_⟩
    rintro key' ⟨m', hkey'⟩
    rcases Nat.le_total m m' with hle | hle
    · exact ((hcont hle).key_eq hkey hkey').symm
    · exact (hcont hle).key_eq hkey' hkey
  · intro l m n id key hlm hmn hl hn
    obtain ⟨key', hkey'⟩ := Scene.contains_iff_exists_shows.1 hn
    obtain rfl := (hcont (hlm.trans hmn)).key_eq hl hkey'
    exact (hcont hmn).shows_of_given_out (hcont hlm) hl.contains hkey'
  · intro l m n id hlm hmn hl hm
    apply ignores_of_not_contains
    intro hn
    obtain ⟨key, hkey⟩ := Scene.contains_iff_exists_shows.1 hn
    exact hm ((hcont hmn).shows_of_given_out (hcont hlm) hl hkey).contains

-- A cell exits, and its key comes back under another number; the old one does nothing.
example :
    let f : Firing := { (default : Firing) with key := "a" }
    let h := (blank .unixEpoch .utc).after [.draw [f], .draw [], .draw [f], .click 0]
    h.scene.Shows 1 "a" ∧ ¬ h.scene.Contains 0 ∧ h.lock = .unfrozen := by
  decide +kernel

end HeatMap

end CronHeatMap
