import CronHeatMap.Color.Scale
import Mathlib.Data.List.Sort

/-!
# What the choice of a scale depends on

The distinct counts stand in ascending order, so that they are determined by which counts there are.
A scale is chosen by them alone: neither the order of the firings matters (`select_perm`) nor how
many of them have the same count.
-/

namespace CronHeatMap.Scale

lemma mem_insertAscending {n m : Nat} {ms : List Nat} :
    m ∈ insertAscending n ms ↔ m = n ∨ m ∈ ms := by
  induction ms with
  | nil => simp [insertAscending]
  | cons k ks ih =>
    rw [insertAscending]
    split_ifs with hlt heq
    · exact List.mem_cons
    · simp [heq]
    · rw [List.mem_cons, ih, List.mem_cons, or_left_comm]

lemma pairwise_insertAscending (n : Nat) {ms : List Nat} (hms : ms.Pairwise (· < ·)) :
    (insertAscending n ms).Pairwise (· < ·) := by
  induction ms with
  | nil => exact List.pairwise_singleton _ _
  | cons k ks ih =>
    obtain ⟨hk, hks⟩ := List.pairwise_cons.1 hms
    rw [insertAscending]
    split_ifs with hlt heq
    · refine List.pairwise_cons.2 ⟨?_, hms⟩
      rw [List.forall_mem_cons]
      exact ⟨hlt, fun m hm => hlt.trans (hk m hm)⟩
    · exact hms
    · refine List.pairwise_cons.2 ⟨fun m hm => ?_, ih hks⟩
      rcases mem_insertAscending.1 hm with rfl | hm
      · omega
      · exact hk m hm

/-- The distinct numbers are those that there are. -/
@[simp] lemma mem_distinct {n : Nat} {ns : List Nat} : n ∈ distinct ns ↔ n ∈ ns := by
  induction ns with
  | nil => rfl
  | cons m ms ih => rw [distinct, List.foldr_cons, mem_insertAscending, ← distinct, ih, List.mem_cons]

/-- The distinct numbers ascend. -/
lemma pairwise_distinct (ns : List Nat) : (distinct ns).Pairwise (· < ·) := by
  induction ns with
  | nil => exact List.Pairwise.nil
  | cons m ms ih => exact pairwise_insertAscending m ih

/-- The same numbers are told apart, whatever their order and however often they are listed. -/
lemma distinct_congr {ns ms : List Nat} (hmem : ∀ n, n ∈ ns ↔ n ∈ ms) :
    distinct ns = distinct ms := by
  apply (pairwise_distinct ns).eq_of_mem_iff (pairwise_distinct ms)
  intro n
  rw [mem_distinct, mem_distinct, hmem]

/-- The scale does not depend on the order of the firings. -/
lemma select_perm {fs gs : List Firing} (hperm : fs.Perm gs) : select fs = select gs := by
  have hcounts : distinct (fs.map Firing.count) = distinct (gs.map Firing.count) :=
    distinct_congr fun _ => (hperm.map Firing.count).mem_iff
  rw [select, select, ofCounts, ofCounts, hcounts]

end CronHeatMap.Scale
