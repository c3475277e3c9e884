import CronHeatMap.Contention
import CronHeatMap.Proofs.Color.Scale
import Mathlib.Data.List.SplitBy
import Mathlib.Data.String.Basic

/-!
# The report as a grouping

Among firings in descending order of their counts, the neighbours with equal counts are all the
firings with this count. The stretches are therefore the groups of the distinct counts
(`stretches_of_descending`), and the report has a line for each of the highest ones
(`summarize_of_descending`). A line does not depend on the order of its firings.
-/

namespace CronHeatMap.Contention

/-- Firings in descending order of their counts. -/
def Descending (fs : List Firing) : Prop := fs.Pairwise fun f g => g.count ≤ f.count

variable {fs gs : List Firing} {c : Nat}

/-! ### Groups of equal counts -/

/-- The firings with a certain count. -/
def withCount (fs : List Firing) (c : Nat) : List Firing := fs.filter (·.count = c)

@[simp] lemma mem_withCount {f : Firing} : f ∈ withCount fs c ↔ f ∈ fs ∧ f.count = c := by
  simp [withCount]

lemma withCount_ne_nil (hc : c ∈ fs.map Firing.count) : withCount fs c ≠ [] := by
  obtain ⟨f, hf, rfl⟩ := List.mem_map.1 hc
  exact List.ne_nil_of_mem (mem_withCount.2 ⟨hf, rfl⟩)

/-- The firings with the highest count come first. -/
lemma Descending.withCount_append (hfs : Descending fs) (hle : ∀ f ∈ fs, f.count ≤ c) :
    withCount fs c ++ fs.filter (·.count ≠ c) = fs := by
  induction fs with
  | nil => rfl
  | cons f fs ih =>
    obtain ⟨hf, hfs⟩ := List.pairwise_cons.1 hfs
    rw [List.forall_mem_cons] at hle
    by_cases hcount : f.count = c
    · simpa [withCount, hcount] using ih hfs hle.2
    · have hlower : ∀ g ∈ f :: fs, g.count ≠ c := by
        rw [List.forall_mem_cons]
        refine ⟨hcount, fun g hg => ?_⟩
        have := hf g hg
        omega
      have hnone : withCount (f :: fs) c = [] := by
        simpa [withCount, List.filter_eq_nil_iff] using hlower
      rw [hnone, List.nil_append, List.filter_eq_self]
      simpa using hlower

/-- The groups of descending counts, one after the other, are the firings themselves. -/
lemma Descending.flatMap_withCount (hfs : Descending fs) {cs : List Nat}
    (hcs : cs.Pairwise (· > ·)) (hmem : ∀ f ∈ fs, f.count ∈ cs) :
    cs.flatMap (withCount fs) = fs := by
  induction cs generalizing fs with
  | nil => simpa [List.eq_nil_iff_forall_not_mem] using hmem
  | cons c cs ih =>
    obtain ⟨hc, hcs⟩ := List.pairwise_cons.1 hcs
    have hle : ∀ f ∈ fs, f.count ≤ c := by
      intro f hf
      rcases List.mem_cons.1 (hmem f hf) with heq | hlower
      · exact heq.le
      · exact (hc _ hlower).le
    -- The lower counts are those of the firings without the highest one.
    have hrest : cs.flatMap (withCount fs) =
        cs.flatMap (withCount (fs.filter (·.count ≠ c))) := by
      apply List.flatMap_congr
      intro c' hc'
      have hne : c' ≠ c := (hc c' hc').ne
      rw [withCount, withCount, List.filter_filter]
      apply List.filter_congr
      intro f _
      by_cases hcount : f.count = c' <;> simp [hcount, hne]
    rw [List.flatMap_cons, hrest, ih (List.Pairwise.filter _ hfs) hcs, hfs.withCount_append hle]
    intro f hf
    obtain ⟨hf, hcount⟩ := List.mem_filter.1 hf
    exact (List.mem_cons.1 (hmem f hf)).resolve_left (by simpa using hcount)

/-- The counts of some firings, each once, in descending order. -/
def countsDown (fs : List Firing) : List Nat := (Scale.distinct (fs.map Firing.count)).reverse

lemma mem_countsDown : c ∈ countsDown fs ↔ c ∈ fs.map Firing.count := by
  rw [countsDown, List.mem_reverse, Scale.mem_distinct]

lemma pairwise_countsDown (fs : List Firing) : (countsDown fs).Pairwise (· > ·) :=
  List.pairwise_reverse.2 (Scale.pairwise_distinct _)

/-- The groups of all counts, from the highest one down, are the firings themselves. -/
lemma Descending.flatMap_countsDown (hfs : Descending fs) :
    (countsDown fs).flatMap (withCount fs) = fs :=
  hfs.flatMap_withCount (pairwise_countsDown fs)
    fun _ hf => mem_countsDown.2 (List.mem_map_of_mem hf)

/-- The stretches of firings in descending order are the groups of their counts. -/
lemma stretches_of_descending (hfs : Descending fs) :
    stretches fs = (countsDown fs).map (withCount fs) := by
  have hne : ∀ c ∈ countsDown fs, withCount fs c ≠ [] :=
    fun c hc => withCount_ne_nil (mem_countsDown.1 hc)
  rw [stretches, List.splitBy_eq_iff]
  refine ⟨?_, ?_, ?_, ?_⟩
  · rw [← List.flatMap_def]
    exact hfs.flatMap_countsDown.symm
  · rw [List.mem_map]
    rintro ⟨c, hc, hnil⟩
    exact hne c hc hnil
  · rw [List.forall_mem_map]
    intro c _
    have hequal : (withCount fs c).Pairwise fun f g => (f.count == g.count) = true := by
      apply List.pairwise_of_forall_mem_list
      intro f hf g hg
      rw [(mem_withCount.1 hf).2, (mem_withCount.1 hg).2, beq_self_eq_true]
    exact hequal.isChain
  · have hdiffer : ((countsDown fs).map (withCount fs)).Pairwise fun a b =>
        ∃ ha hb, ((a.getLast ha).count == (b.head hb).count) = false := by
      rw [List.pairwise_map]
      refine (pairwise_countsDown fs).imp_of_mem fun {c c'} hc hc' hlt => ⟨hne c hc, hne c' hc', ?_⟩
      rw [(mem_withCount.1 (List.getLast_mem (hne c hc))).2,
        (mem_withCount.1 (List.head_mem (hne c' hc'))).2]
      exact beq_false_of_ne hlt.ne'
    exact hdiffer.isChain

/-- The report on firings in descending order has a line for each of the highest counts. -/
lemma summarize_of_descending (hfs : Descending fs) :
    summarize fs = ((countsDown fs).take maxLines).map fun c => line c (withCount fs c) := by
  rw [summarize, stretches_of_descending hfs, ← List.map_take, List.filterMap_map,
    ← List.filterMap_eq_map]
  apply List.filterMap_congr
  intro c hc
  have hne := withCount_ne_nil (mem_countsDown.1 (List.mem_of_mem_take hc))
  rw [Function.comp_apply, List.head?_eq_some_head hne, Option.map_some,
    (mem_withCount.1 (List.head_mem hne)).2, Function.comp_apply]

/-- Every line of the report is about a count that occurs. -/
lemma exists_of_mem_summarize {l : ContentionLine} (hl : l ∈ summarize fs) :
    ∃ f ∈ fs, f.count = l.count := by
  obtain ⟨stretch, hstretch, hline⟩ := List.mem_filterMap.1 hl
  obtain ⟨f, hhead, rfl⟩ := Option.map_eq_some_iff.1 hline
  refine ⟨f, ?_, rfl⟩
  have hflatten : (stretches fs).flatten = fs := List.flatten_splitBy ..
  rw [← hflatten]
  exact List.mem_flatten.2 ⟨stretch, List.mem_of_mem_take hstretch, List.mem_of_head? hhead⟩

/-! ### What the report leaves out -/

lemma length_keys_of_not_truncated (hfull : (line c fs).truncated = false) :
    (line c fs).keys.length = fs.length := by
  have hle : fs.length ≤ maxKeys := by simpa [line] using hfull
  rw [line, List.length_take, sortedKeys, List.length_mergeSort, List.length_map]
  omega

lemma length_countsDown_le_of_subset (hsub : fs ⊆ gs) :
    (countsDown fs).length ≤ (countsDown gs).length := by
  have hnodup : (countsDown fs).Nodup := (pairwise_countsDown fs).imp fun hlt => hlt.ne'
  apply (List.subperm_of_subset hnodup _).length_le
  intro c hc
  rw [mem_countsDown] at hc ⊢
  exact List.map_subset Firing.count hsub hc

/-! ### The order of the firings -/

lemma countsDown_perm (hperm : fs.Perm gs) : countsDown fs = countsDown gs := by
  rw [countsDown, countsDown,
    Scale.distinct_congr fun _ => (hperm.map Firing.count).mem_iff]

lemma sortedKeys_perm (hperm : fs.Perm gs) : sortedKeys fs = sortedKeys gs := by
  have hsorted : ∀ fs, (sortedKeys fs).Pairwise (· ≤ ·) :=
    fun fs => List.pairwise_mergeSort' (· ≤ ·) (fs.map Firing.key)
  have hkeys : (sortedKeys fs).Perm (sortedKeys gs) :=
    (List.mergeSort_perm _ _).trans
      ((hperm.map Firing.key).trans (List.mergeSort_perm _ _).symm)
  exact hkeys.eq_of_pairwise' (hsorted fs) (hsorted gs)

/-- A line does not depend on the order of its firings. -/
lemma line_perm (c : Nat) (hperm : fs.Perm gs) : line c fs = line c gs := by
  rw [line, line, sortedKeys_perm hperm, hperm.length_eq]

end CronHeatMap.Contention
