import CronHeatMap.Proofs.Color.Classes
import CronHeatMap.Proofs.Contention.Buckets
import CronHeatMap.Proofs.HeatMap.Drawing
import Mathlib.Data.Multiset.Sort

/-!
# The report as a ranking

What the report says can be said of the firings without their order: it ranks the counts that occur,
from the highest one down, each with the keys of all its firings (`ranking`). The report on firings
in descending order is this ranking, and so is the report of a draw, which puts them into such an
order (`summarize_eq_ranking`).
-/

namespace CronHeatMap.Contention

variable {fs gs : List Firing}

/-! ### The ranking -/

/-- The keys of the firings with a certain count. -/
def keysWith (fs : Multiset Firing) (c : Nat) : Multiset String :=
  (fs.filter (·.count = c)).map Firing.key

/-- The line for a count and its keys. -/
def rankingLine (c : Nat) (keys : Multiset String) : ContentionLine where
  count := c
  keys := (keys.sort (· ≤ ·)).take maxKeys
  truncated := decide (maxKeys < keys.card)

/-- The lines for the highest counts, from the highest one down. -/
def ranking (fs : Multiset Firing) : List ContentionLine :=
  (((countSet fs).sort (· ≥ ·)).take maxLines).map fun c => rankingLine c (keysWith fs c)

/-- Lines report on the highest counts, each once and in descending order, with the first of the
keys that have this count. -/
structure Ranks (fs : Multiset Firing) (lines : List ContentionLine) : Prop where
  length_eq : lines.length = min maxLines (countSet fs).card
  pairwise_count : lines.Pairwise fun l l' => l'.count < l.count
  count_mem : ∀ l ∈ lines, l.count ∈ countSet fs
  /-- A count without a line is lower than all those that have one. -/
  lt_of_left_out : ∀ c ∈ countSet fs, (∀ l ∈ lines, l.count ≠ c) → ∀ l ∈ lines, c < l.count
  keys_eq : ∀ l ∈ lines, l.keys = ((keysWith fs l.count).sort (· ≤ ·)).take maxKeys
  truncated_iff : ∀ l ∈ lines, l.truncated = true ↔ maxKeys < (keysWith fs l.count).card

lemma pairwise_sort_countSet (fs : Multiset Firing) :
    ((countSet fs).sort (· ≥ ·)).Pairwise (· > ·) :=
  (Finset.sortedGT_sort (countSet fs)).pairwise

lemma ranks_ranking (fs : Multiset Firing) : Ranks fs (ranking fs) where
  length_eq := by rw [ranking, List.length_map, List.length_take, Finset.length_sort]
  pairwise_count := List.pairwise_map.2 (pairwise_sort_countSet fs).take
  count_mem := by
    rw [ranking, List.forall_mem_map]
    intro c hc
    exact (Finset.mem_sort (· ≥ ·)).1 (List.mem_of_mem_take hc)
  lt_of_left_out := by
    intro c hc hout
    rw [ranking, List.forall_mem_map] at hout ⊢
    -- The counts without a line are those that come after the highest ones.
    have hsplit := List.take_append_drop maxLines ((countSet fs).sort (· ≥ ·))
    have hlow : c ∈ ((countSet fs).sort (· ≥ ·)).drop maxLines := by
      have hmem := (Finset.mem_sort (· ≥ ·)).2 hc
      rw [← hsplit, List.mem_append] at hmem
      exact hmem.resolve_left fun htake => hout c htake rfl
    have hsorted := pairwise_sort_countSet fs
    rw [← hsplit, List.pairwise_append] at hsorted
    exact fun d hd => hsorted.2.2 d hd c hlow
  keys_eq := by
    rw [ranking, List.forall_mem_map]
    exact fun _ _ => rfl
  truncated_iff := by
    rw [ranking, List.forall_mem_map]
    exact fun _ _ => decide_eq_true_iff

/-! ### The report -/

lemma countsDown_eq_sort (fs : List Firing) : countsDown fs = (countSet fs).sort (· ≥ ·) := by
  apply (pairwise_countsDown fs).eq_of_mem_iff (pairwise_sort_countSet fs)
  simp [mem_countsDown]

lemma line_withCount (fs : List Firing) (c : Nat) :
    line c (withCount fs c) = rankingLine c (keysWith fs c) := by
  have hkeys : keysWith fs c = ((withCount fs c).map Firing.key : List String) := rfl
  rw [rankingLine, hkeys, Multiset.coe_sort, Multiset.coe_card, List.length_map, line, sortedKeys]

lemma Descending.summarize_eq (hfs : Descending fs) : summarize fs = ranking fs := by
  rw [summarize_of_descending hfs, countsDown_eq_sort, ranking]
  exact List.map_congr_left fun c _ => line_withCount fs c

/-- The report on firings in descending order is their ranking, and making it in one pass does not
fail. The report of a draw is the ranking of its firings, in whichever order they are given. -/
theorem summarize_eq_ranking (fs : List Firing) :
    Ranks fs (ranking fs) ∧
    (Descending fs → summarize fs = ranking fs ∧ summarizeChecked fs = .ok (ranking fs)) ∧
    ∀ gs : List Firing, gs.Perm fs → ∀ h : HeatMap, (h.draw gs).2.contention = ranking fs := by
  refine ⟨ranks_ranking fs, fun hfs => ?_, fun gs hperm h => ?_⟩
  · have hsummarize := hfs.summarize_eq
    exact ⟨hsummarize, by rw [summarizeChecked_eq, hsummarize]⟩
  · have hordered : (HeatMap.busiestFirst gs).Perm fs := (HeatMap.busiestFirst_perm gs).trans hperm
    rw [HeatMap.contention_draw, (HeatMap.descending_busiestFirst gs).summarize_eq,
      Multiset.coe_eq_coe.2 hordered]

/-- Five keys have the second highest count, and the sixth count has no line. -/
theorem summarize_eq_ranking_at_limits :
    let fs : List Firing := [("f", 9), ("e", 8), ("b", 8), ("d", 8), ("a", 8), ("c", 8), ("h", 7),
      ("g", 7), ("i", 6), ("j", 5), ("k", 4)].map fun (key, count) =>
        { (default : Firing) with key, count }
    Descending fs ∧ Ranks fs (ranking fs) ∧ summarizeChecked fs = .ok
      [{ count := 9, keys := ["f"], truncated := false },
        { count := 8, keys := ["a", "b", "c", "d"], truncated := true },
        { count := 7, keys := ["g", "h"], truncated := false },
        { count := 6, keys := ["i"], truncated := false },
        { count := 5, keys := ["j"], truncated := false }] := by
  intro fs
  have hfs : Descending fs := by
    unfold Descending
    decide +kernel
  obtain ⟨hranks, hdescending, -⟩ := summarize_eq_ranking fs
  obtain ⟨hsummarize, hchecked⟩ := hdescending hfs
  refine ⟨hfs, hranks, ?_⟩
  have hstretches : stretches fs = [fs.take 1, (fs.drop 1).take 5, (fs.drop 6).take 2,
      (fs.drop 8).take 1, (fs.drop 9).take 1, fs.drop 10] := by
    decide +kernel
  rw [hchecked, ← hsummarize, summarize, hstretches]
  simp [fs, line, sortedKeys, maxLines, maxKeys, List.mergeSort]

end CronHeatMap.Contention
