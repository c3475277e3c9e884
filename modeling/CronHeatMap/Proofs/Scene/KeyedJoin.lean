import CronHeatMap.Proofs.Scene.Pass
import Mathlib.Data.List.Induction

/-!
# Reconciliation as a join by key

What reconciling a scene with firings comes to is said by `Scene.JoinedWith` in terms of the keys:
which elements there are and in which order, what each of them shows and what it has kept, and which
numbers are reported. It holds of any scene and any firings, also of those that repeat keys
(`reconcile_joins_by_key`).
-/

namespace CronHeatMap

variable {fs : List Firing}

/-- The first firings for each key have each key once, in the order in which the keys first occur.
-/
lemma map_key_firstPerKey (fs : List Firing) :
    (firstPerKey fs).map Firing.key = (fs.map Firing.key).eraseDups := by
  induction fs using List.reverseRecOn with
  | nil => rfl
  | append_singleton fs f ih =>
    rw [firstPerKey_concat, List.map_append, List.map_singleton, List.eraseDups_append, ← ih]
    split_ifs with hmem
    · simp [List.removeAll, hmem, -List.mem_map]
    · simp [List.removeAll, hmem, -List.mem_map, List.eraseDups_cons]

lemma nodup_eraseDups_keys (fs : List Firing) : (fs.map Firing.key).eraseDups.Nodup := by
  rw [← map_key_firstPerKey]
  exact firstPerKey_keys_nodup fs

namespace Scene

variable {s : Scene} {scale : Scale} {e : Element} {es : List Element}

/-- The number of the element with a key. -/
def idOf? (s : Scene) (key : String) : Option ElementId := (s.byKey? key).map Element.id

lemma idOf?_of_mem (he : e ∈ s.elements) : s.idOf? e.key = some e.id := by
  rw [idOf?, byKey?_eq_some_iff.2 ⟨he, rfl⟩, Option.map_some]

/-- The numbers of some elements are found by their keys. -/
lemma map_id_eq_map_idOf? (hes : ∀ e ∈ es, e ∈ s.elements) :
    (es.map Element.id).map some = (es.map Element.key).map s.idOf? := by
  rw [List.map_map, List.map_map]
  apply List.map_congr_left
  intro e he
  exact (idOf?_of_mem (hes e he)).symm

/-- `s'` is the join of the scene `s` with firings by key, and `r` has the numbers of the elements
that exit, survive and enter. -/
structure JoinedWith (s : Scene) (fs : List Firing) (scale : Scale) (s' : Scene)
    (r : Reconciliation) : Prop where
  /-- The keys that survive stand in their old order. Those that enter follow in the order in which
  they first occur. -/
  keys_eq : s'.keys = s.keys.filter (· ∈ fs.map Firing.key) ++
    (fs.map Firing.key).eraseDups.filter (· ∉ s.keys)
  /-- Each key of the firings has one element, and there are no others. -/
  keys_perm : s'.keys.Perm (fs.map Firing.key).eraseDups
  /-- An element shows the first firing with its key. -/
  firing_eq : ∀ e' ∈ s'.elements, fs.find? (·.key = e'.key) = some e'.firing
  fill_eq : ∀ e' ∈ s'.elements, e'.fill = scale.color e'.firing.count
  /-- A survivor keeps its number, its place and its marks. The size of a cell is no matter of its
  own, since it is that of the bands of the grid. -/
  survivor_eq : ∀ e ∈ s.elements, ∀ e' ∈ s'.elements, e.key = e'.key →
    e'.id = e.id ∧ e'.seat = e.seat ∧ e'.marks = e.marks
  /-- A newcomer takes the place of its firing and has no marks. -/
  newcomer_eq : ∀ e' ∈ s'.elements, e'.key ∉ s.keys → e'.seat = e'.firing.seat ∧ e'.marks = {}
  /-- The newcomers get the next numbers, one after the other. -/
  ids_eq : s'.elements.map Element.id =
    (s.elements.filter (·.key ∈ fs.map Firing.key)).map Element.id ++ r.entered
  entered_eq_range : r.entered = List.range' s.nextId r.entered.length
  nextId_eq : s'.nextId = s.nextId + r.entered.length
  /-- Those that exit are reported in document order. -/
  exited_eq : r.exited = (s.elements.filter (·.key ∉ fs.map Firing.key)).map Element.id
  /-- Survivors are reported in the order in which their keys first occur among the firings. -/
  updated_eq : r.updated.map some =
    ((fs.map Firing.key).eraseDups.filter (· ∈ s.keys)).map s.idOf?
  /-- So are newcomers. -/
  entered_eq : r.entered.map some =
    ((fs.map Firing.key).eraseDups.filter (· ∉ s.keys)).map s'.idOf?
  /-- No number is reported twice. -/
  nodup : (r.exited ++ r.updated ++ r.entered).Nodup
  /-- The old numbers are those that have exited or survived. -/
  old_ids_perm : (r.exited ++ r.updated).Perm (s.elements.map Element.id)
  /-- The new numbers are those that have survived or entered. -/
  new_ids_perm : (r.updated ++ r.entered).Perm (s'.elements.map Element.id)

/-! ### Survivors and newcomers -/

lemma map_key_survivors (s : Scene) (fs : List Firing) (scale : Scale) :
    (s.survivors (firstPerKey fs) scale).map Element.key =
      s.keys.filter (· ∈ fs.map Firing.key) := by
  rw [survivors_firstPerKey, List.map_map, keys, List.filter_map]
  exact List.map_congr_left fun e _ => Element.key_displayFirst scale fs e

lemma map_id_survivors (s : Scene) (fs : List Firing) (scale : Scale) :
    (s.survivors (firstPerKey fs) scale).map Element.id =
      (s.elements.filter (·.key ∈ fs.map Firing.key)).map Element.id := by
  rw [survivors_firstPerKey, List.map_map]
  exact List.map_congr_left fun e _ => Element.id_displayFirst scale fs e

lemma map_key_newcomers (s : Scene) (fs : List Firing) :
    (s.newcomers (firstPerKey fs)).map Firing.key =
      (fs.map Firing.key).eraseDups.filter (· ∉ s.keys) := by
  rw [← map_key_firstPerKey, List.filter_map, newcomers]
  congr 1
  apply List.filter_congr
  intro f _
  rw [Function.comp_apply, Bool.eq_iff_iff, Option.isNone_iff_eq_none, byKey?_eq_none_iff,
    decide_eq_true_eq]

/-- The elements found by some keys have those of the keys that there are. -/
lemma map_key_filterMap_byKey? (s : Scene) (ks : List String) :
    (ks.filterMap s.byKey?).map Element.key = ks.filter (· ∈ s.keys) := by
  induction ks with
  | nil => rfl
  | cons k ks ih =>
    cases hfound : s.byKey? k with
    | none =>
      have hkey : k ∉ s.keys := byKey?_eq_none_iff.1 hfound
      rw [List.filterMap_cons_none hfound, ih, List.filter_cons_of_neg (by simpa using hkey)]
    | some e =>
      obtain ⟨he, rfl⟩ := byKey?_eq_some_iff.1 hfound
      have hkey : e.key ∈ s.keys := List.mem_map_of_mem he
      rw [List.filterMap_cons_some hfound, List.map_cons, ih,
        List.filter_cons_of_pos (by simpa using hkey)]

/-- Whatever the order in which distinct keys find elements, these are the elements with one of the
keys. -/
lemma filterMap_byKey?_perm (s : Scene) {ks : List String} (hks : ks.Nodup) :
    (ks.filterMap s.byKey?).Perm (s.elements.filter (·.key ∈ ks)) := by
  have hfound : (ks.filterMap s.byKey?).Nodup := by
    apply List.Nodup.of_map Element.key
    rw [map_key_filterMap_byKey?]
    exact hks.filter _
  have helements : (s.elements.filter (·.key ∈ ks)).Nodup :=
    (s.keys_nodup.of_map Element.key).filter _
  rw [List.perm_ext_iff_of_nodup hfound helements]
  intro e
  simp only [List.mem_filterMap, byKey?_eq_some_iff, List.mem_filter, decide_eq_true_eq]
  constructor
  · rintro ⟨k, hk, he, rfl⟩
    exact ⟨he, hk⟩
  · rintro ⟨he, hk⟩
    exact ⟨e.key, hk, he, rfl⟩

/-! ### The join -/

lemma updated_reconciliation (s : Scene) (fs : List Firing) :
    (s.reconciliation fs).updated =
      ((fs.map Firing.key).eraseDups.filterMap s.byKey?).map Element.id := by
  rw [← map_key_firstPerKey, List.filterMap_map]
  rfl

lemma exited_reconciliation (s : Scene) (fs : List Firing) :
    (s.reconciliation fs).exited =
      (s.elements.filter (·.key ∉ fs.map Firing.key)).map Element.id := by
  simp only [reconciliation, isNone_find?_firstPerKey]
  rfl

/-- The numbers of the survivors, in whichever order. -/
lemma updated_perm (s : Scene) (fs : List Firing) :
    (s.reconciliation fs).updated.Perm
      ((s.elements.filter (·.key ∈ fs.map Firing.key)).map Element.id) := by
  rw [updated_reconciliation]
  have hperm := filterMap_byKey?_perm s (nodup_eraseDups_keys fs)
  simp only [List.mem_eraseDups] at hperm
  exact hperm.map Element.id

lemma ids_redraw (s : Scene) (fs : List Firing) (scale : Scale) :
    (s.redraw fs scale).elements.map Element.id =
      (s.elements.filter (·.key ∈ fs.map Firing.key)).map Element.id ++
        (s.reconciliation fs).entered := by
  rw [redraw, List.map_append, map_id_survivors, entering_map_id]
  rfl

lemma exited_append_updated_perm (s : Scene) (fs : List Firing) :
    ((s.reconciliation fs).exited ++ (s.reconciliation fs).updated).Perm
      (s.elements.map Element.id) := by
  have hsplit := List.filter_append_perm (fun e => decide (e.key ∈ fs.map Firing.key)) s.elements
  simp only [← decide_not] at hsplit
  have hsplit := hsplit.map Element.id
  rw [List.map_append] at hsplit
  rw [exited_reconciliation]
  exact ((updated_perm s fs).append_left _).trans (List.perm_append_comm.trans hsplit)

/-- The numbers of a reconciliation are told apart: those of old elements are below the next number,
from which on those of new elements are taken. -/
lemma nodup_reconciliation (s : Scene) (fs : List Firing) :
    ((s.reconciliation fs).exited ++ (s.reconciliation fs).updated ++
      (s.reconciliation fs).entered).Nodup := by
  have hold := exited_append_updated_perm s fs
  rw [List.nodup_append]
  refine ⟨hold.nodup_iff.2 s.ids_nodup, List.nodup_range', ?_⟩
  rintro id hid _ hnew rfl
  obtain ⟨e, he, rfl⟩ := List.mem_map.1 (hold.mem_iff.1 hid)
  exact absurd (s.id_lt_nextId e he) (Nat.not_lt.2 (List.mem_range'_1.1 hnew).1)

lemma joinedWith_reconcile (s : Scene) (fs : List Firing) (scale : Scale) :
    s.JoinedWith fs scale (s.redraw fs scale) (s.reconciliation fs) where
  keys_eq := by
    rw [keys, redraw, List.map_append, map_key_survivors, entering_map_key, map_key_newcomers]
  keys_perm := by
    rw [List.perm_ext_iff_of_nodup (s.redraw fs scale).keys_nodup (nodup_eraseDups_keys fs)]
    intro key
    rw [mem_keys_redraw, List.mem_eraseDups]
  firing_eq _ he' := find?_of_mem_redraw he'
  fill_eq _ he' := fill_of_mem_redraw he'
  survivor_eq := by
    intro e he e' he' hkey
    rcases List.mem_append.1 he' with hsurvives | henters
    · obtain ⟨e₀, he₀, f, -, hfkey, rfl⟩ := exists_of_mem_survivors hsurvives
      rw [List.inj_on_of_nodup_map s.keys_nodup he he₀ (hkey.trans hfkey)]
      exact ⟨rfl, rfl, rfl⟩
    · have hnew := List.mem_map_of_mem (f := Element.key) henters
      rw [entering_map_key, map_key_newcomers, List.mem_filter, ← hkey] at hnew
      exact absurd (List.mem_map_of_mem he) (of_decide_eq_true hnew.2)
  newcomer_eq := by
    intro e' he' hkey
    rcases exists_of_mem_redraw he' with ⟨e₀, he₀, -, hkey₀, -⟩ | ⟨-, hseat, hmarks⟩
    · exact absurd (hkey₀ ▸ List.mem_map_of_mem he₀) hkey
    · exact ⟨hseat, hmarks⟩
  ids_eq := ids_redraw s fs scale
  entered_eq_range := by
    simp [reconciliation]
  nextId_eq := by
    simp [reconciliation, redraw]
  exited_eq := exited_reconciliation s fs
  updated_eq := by
    rw [updated_reconciliation, map_id_eq_map_idOf?, map_key_filterMap_byKey?]
    intro e he
    obtain ⟨key, -, hfound⟩ := List.mem_filterMap.1 he
    exact (byKey?_eq_some_iff.1 hfound).1
  entered_eq := by
    have hentered : (s.reconciliation fs).entered =
        (entering scale s.nextId (s.newcomers (firstPerKey fs))).map Element.id :=
      (entering_map_id ..).symm
    have hmem : ∀ e ∈ entering scale s.nextId (s.newcomers (firstPerKey fs)),
        e ∈ (s.redraw fs scale).elements := fun e he => List.mem_append_right _ he
    rw [hentered, map_id_eq_map_idOf? hmem, entering_map_key, map_key_newcomers]
  nodup := nodup_reconciliation s fs
  old_ids_perm := exited_append_updated_perm s fs
  new_ids_perm := by
    rw [ids_redraw]
    exact (updated_perm s fs).append_right _

/-- Reconciling a scene with firings is joining it with them by key, and one pass over the firings
does so. -/
theorem reconcile_joins_by_key (s : Scene) (fs : List Firing) (scale : Scale) :
    s.pass fs scale = s.reconcile fs scale ∧
      s.JoinedWith fs scale (s.reconcile fs scale).1 (s.reconcile fs scale).2 :=
  ⟨pass_eq_reconcile s fs scale, joinedWith_reconcile s fs scale⟩

-- Of the keys a and b, a exits and b survives. The key c comes twice and enters once.
example :
    let firing (key : String) : Firing := { (default : Firing) with key }
    let s := Scene.empty.redraw [firing "a", firing "b"] (.select [])
    s.reconciliation [firing "c", firing "b", firing "c"] =
      { entered := [2], updated := [1], exited := [0] } := by
  decide +kernel

end Scene

end CronHeatMap
