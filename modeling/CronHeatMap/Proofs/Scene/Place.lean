import CronHeatMap.Proofs.Scene
import Mathlib.Data.List.Induction

/-!
# Where the cells of a scene stand

A cell is placed when it enters, and it keeps this place for as long as its key is drawn, whatever
firings it shows. In a run of reconciliations from the empty scene each cell therefore stands where
the firing belongs with which it has entered (`stands_where_entered`). No two places of the grid
have the same offsets, so that this is where its present firing belongs exactly if both are of the
same hour and minute.
-/

namespace CronHeatMap

/-! ### Offsets on the grid -/

namespace Grid

/-- The columns follow each other from left to right: the offsets ascend, as the words by which
floating-point numbers that are not negative are written do. -/
lemma columns_isChain : ((List.range minutesPerHour).map fun i =>
    ((columns.position? i).map Float.toBits).getD 0).IsChain (· < ·) := by
  decide +kernel

/-- The rows follow each other from top to bottom. -/
lemma rows_isChain : ((List.range hoursPerDay).map fun i =>
    ((rows.position? i).map Float.toBits).getD 0).IsChain (· < ·) := by
  decide +kernel

/-- Bands whose offsets ascend have different offsets. -/
lemma position?_injOn {b : Bands} {n i j : Nat} (hchain : ((List.range n).map fun i =>
    ((b.position? i).map Float.toBits).getD 0).IsChain (· < ·)) (hi : i < n) (hj : j < n)
    (heq : b.position? i = b.position? j) : i = j := by
  have hnodup := hchain.pairwise.imp fun hlt => UInt64.ne_of_lt hlt
  exact List.inj_on_of_nodup_map hnodup (List.mem_range.2 hi) (List.mem_range.2 hj) (by rw [heq])

end Grid

/-- A band that there is has an offset. -/
lemma Bands.position?_eq_some_getD {b : Bands} {i : Nat} (hi : i < b.count) :
    b.position? i = some ((b.position? i).getD 0) := by
  obtain ⟨x, hx⟩ := Option.isSome_iff_exists.1 (Bands.position?_isSome.2 hi)
  rw [hx, Option.getD_some]

namespace Element

/-- The element stands in the column of a firing's minute and in the row of its hour. -/
def StandsAt (e : Element) (f : Firing) : Prop :=
  Grid.columns.position? f.minute = some e.seat.x ∧ Grid.rows.position? f.hour = some e.seat.y

instance (e : Element) (f : Firing) : Decidable (e.StandsAt f) :=
  inferInstanceAs (Decidable (_ ∧ _))

/-- An element with the seat of a firing stands where this firing belongs, and where another one
belongs only if it has the same seat. -/
lemma standsAt_iff {e : Element} {f g : Firing} (hf : f.OnGrid) (hseat : e.seat = f.seat)
    (hg : g.OnGrid) : e.StandsAt g ↔ g.seat = f.seat := by
  have hx : Grid.columns.position? f.minute = some f.seat.x := Bands.position?_eq_some_getD hf.2
  have hy : Grid.rows.position? f.hour = some f.seat.y := Bands.position?_eq_some_getD hf.1
  rw [StandsAt, hseat, ← hx, ← hy, Firing.seat, Firing.seat, Seat.mk.injEq]
  constructor
  · rintro ⟨hminute, hhour⟩
    exact ⟨Grid.position?_injOn Grid.rows_isChain hg.1 hf.1 hhour,
      Grid.position?_injOn Grid.columns_isChain hg.2 hf.2 hminute⟩
  · rintro ⟨hhour, hminute⟩
    rw [hhour, hminute]
    exact ⟨rfl, rfl⟩

end Element

namespace Scene

/-- An element that has just entered has the seat of its firing. -/
lemma seat_eq_of_entered {s : Scene} {firings : List Firing} {scale : Scale} {e : Element}
    (he : e ∈ (s.redraw firings scale).elements)
    (hentered : e.id ∈ (s.reconciliation firings).entered) : e.seat = e.firing.seat := by
  rcases exists_of_mem_redraw he with ⟨e₀, he₀, hid, -⟩ | ⟨-, hseat, -⟩
  · -- The numbers that are given out were not in use before.
    have hlt : e₀.id < s.nextId := s.id_lt_nextId e₀ he₀
    have hle : s.nextId ≤ e.id := (List.mem_range'_1.1 hentered).1
    omega
  · exact hseat

/-! ### Runs of reconciliations -/

/-- Firings to reconcile a scene with, and the scale for their fills. -/
structure Join where
  firings : List Firing
  scale : Scale

/-- The scene after it was reconciled with some firings, one list after the other. -/
def after (s : Scene) (joins : List Join) : Scene :=
  joins.foldl (fun s join => (s.reconcile join.firings join.scale).1) s

lemma after_concat (s : Scene) (joins : List Join) (join : Join) :
    s.after (joins ++ [join]) = (s.after joins).redraw join.firings join.scale :=
  List.foldl_concat ..

/-- In a run from the empty scene, an element has entered with a firing: a reconciliation gave it
its number for the first firing with its key, and there was one in all the later ones. -/
def EnteredWith (joins : List Join) (e : Element) (f : Firing) : Prop :=
  ∃ earlier join later, joins = earlier ++ join :: later ∧
    e.id ∈ ((empty.after earlier).reconcile join.firings join.scale).2.entered ∧
    join.firings.find? (·.key = e.key) = some f ∧
    ∀ join' ∈ later, e.key ∈ join'.firings.map Firing.key

variable {joins : List Join} {join : Join} {e e₀ : Element} {f : Firing}

lemma EnteredWith.exists_mem (he : EnteredWith joins e f) : ∃ join ∈ joins, f ∈ join.firings := by
  obtain ⟨earlier, join, later, rfl, -, hfound, -⟩ := he
  exact ⟨join, by simp, List.mem_of_find?_eq_some hfound⟩

/-- An element survives one more reconciliation. -/
lemma EnteredWith.concat (he₀ : EnteredWith joins e₀ f) (hid : e₀.id = e.id)
    (hkey : e₀.key = e.key) (hmem : e.key ∈ join.firings.map Firing.key) :
    EnteredWith (joins ++ [join]) e f := by
  obtain ⟨earlier, first, later, rfl, hentered, hfound, hlater⟩ := he₀
  rw [hid] at hentered
  rw [hkey] at hfound hlater
  refine ⟨earlier, first, later ++ [join], by simp, hentered, hfound, ?_⟩
  rw [List.forall_mem_append, List.forall_mem_singleton]
  exact ⟨hlater, hmem⟩

/-- Every element of a run has the seat of the firing with which it has entered. -/
lemma exists_enteredWith_seat_eq (he : e ∈ (empty.after joins).elements) :
    ∃ f, EnteredWith joins e f ∧ e.seat = f.seat := by
  induction joins using List.reverseRecOn generalizing e with
  | nil => cases he
  | append_singleton joins join ih =>
    rw [after_concat] at he
    rcases exists_of_mem_redraw he with ⟨e₀, he₀, hid, hkey, hseat, -⟩ | ⟨hentered, hseat, -⟩
    · obtain ⟨f, hf, hfseat⟩ := ih he₀
      have hmem := mem_keys_redraw.1 (List.mem_map_of_mem (f := Element.key) he)
      exact ⟨f, hf.concat hid hkey hmem, hseat.symm.trans hfseat⟩
    · exact ⟨e.firing, ⟨joins, join, [], rfl, hentered, find?_of_mem_redraw he, by simp⟩, hseat⟩

lemma exists_mem_firings (he : e ∈ (empty.after joins).elements) :
    ∃ join ∈ joins, e.firing ∈ join.firings := by
  rcases List.eq_nil_or_concat joins with rfl | ⟨joins, join, rfl⟩
  · cases he
  · rw [List.concat_eq_append, after_concat] at he
    exact ⟨join, by simp, List.mem_of_find?_eq_some (find?_of_mem_redraw he)⟩

/-- However a scene is reconciled with firings on the grid, each cell stands where the firing belongs
with which it has entered, and so where its own firing belongs exactly if that has the same hour and
minute. -/
theorem stands_where_entered (hgrid : ∀ join ∈ joins, ∀ f ∈ join.firings, f.OnGrid)
    (he : e ∈ (empty.after joins).elements) :
    ∃ f, EnteredWith joins e f ∧ e.StandsAt f ∧ (e.StandsAt e.firing ↔ e.firing.seat = f.seat) := by
  obtain ⟨f, hf, hseat⟩ := exists_enteredWith_seat_eq he
  obtain ⟨join, hjoin, hmem⟩ := hf.exists_mem
  obtain ⟨join', hjoin', hmem'⟩ := exists_mem_firings he
  have hfgrid : f.OnGrid := hgrid join hjoin f hmem
  have hegrid : e.firing.OnGrid := hgrid join' hjoin' e.firing hmem'
  exact ⟨f, hf, (Element.standsAt_iff hfgrid hseat hfgrid).2 rfl,
    Element.standsAt_iff hfgrid hseat hegrid⟩

/-- A cell has exited and entered again before its key comes with another hour and minute. -/
theorem stands_where_entered_again :
    let joins : List Join := [⟨[{ (default : Firing) with key := "a" }], .select []⟩,
      ⟨[], .select []⟩,
      ⟨[{ (default : Firing) with key := "a", hour := 2 }], .select []⟩,
      ⟨[{ (default : Firing) with key := "a", hour := 5, minute := 30 }], .select []⟩]
    (∀ join ∈ joins, ∀ f ∈ join.firings, f.OnGrid) ∧
      ∃ e ∈ (empty.after joins).elements, ∃ f,
        EnteredWith joins e f ∧ e.StandsAt f ∧ e.firing.seat ≠ f.seat := by
  intro joins
  have hgrid : ∀ join ∈ joins, ∀ f ∈ join.firings, f.OnGrid := by decide
  have hmoved : ∃ e ∈ (empty.after joins).elements, ¬ e.StandsAt e.firing := by decide +kernel
  obtain ⟨e, he, hmoved⟩ := hmoved
  obtain ⟨f, hf, hstands, hiff⟩ := stands_where_entered hgrid he
  exact ⟨hgrid, e, he, f, hf, hstands, fun hseat => hmoved (hiff.2 hseat)⟩

/-- The key of a cell comes again with another hour and minute: the cell stays. -/
theorem moved_firing_leaves_cell :
    let f : Firing := { (default : Firing) with key := "a", count := 1, expressions := ["x"] }
    let joins : List Join := [⟨[f], .select [f]⟩,
      ⟨[{ f with hour := 5, minute := 30 }], .select [{ f with hour := 5, minute := 30 }]⟩]
    (∀ join ∈ joins, ∀ f ∈ join.firings, f.OnGrid) ∧
      ∃ e ∈ (empty.after joins).elements, ¬ e.StandsAt e.firing := by
  decide +kernel

end Scene

end CronHeatMap
