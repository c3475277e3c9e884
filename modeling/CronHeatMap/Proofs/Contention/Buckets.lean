import CronHeatMap.Contention
import CronHeatMap.Service
import Mathlib.Data.List.ModifyLast
import Mathlib.Data.List.SplitBy

/-!
# The report in one pass

The report can be made in one pass that puts firings into buckets and stops at the first firing that
would need one bucket too many. A bucket is closed by the first firing with another count, so that
the buckets are at any time the stretches of the firings that have come (`place?_stretches`). No
bucket is ever empty. The lines are therefore those of `summarize`, and the error that stands for an
empty bucket does not arise, in whichever order the firings come (`summarizeChecked_eq`).
-/

namespace CronHeatMap.Contention

variable {fs done : List Firing} {f : Firing} {buckets : List (List Firing)} {bucket : List Firing}

/-! ### Stretches -/

/-- The firings of a stretch have one count. -/
lemma count_eq_of_mem_stretches (hbucket : bucket ∈ stretches fs) {g g' : Firing}
    (hg : g ∈ bucket) (hg' : g' ∈ bucket) : g.count = g'.count := by
  have hchain : bucket.IsChain fun f g => f.count = g.count :=
    (List.isChain_of_mem_splitBy hbucket).imp fun _ _ heq => eq_of_beq heq
  have htrans : IsTrans Firing fun f g => f.count = g.count := ⟨fun _ _ _ => Eq.trans⟩
  have hsymm : Std.Symm fun f g : Firing => f.count = g.count := ⟨fun _ _ => Eq.symm⟩
  exact List.Pairwise.forall_of_forall (R := fun f g : Firing => f.count = g.count)
    (fun _ _ => rfl) (List.isChain_iff_pairwise.1 hchain) hg hg'

/-- A firing with the count of the last stretch makes it longer. -/
lemma stretches_concat_of_count_eq (hlast : stretches done = buckets ++ [bucket])
    (hcount : ∀ g ∈ bucket, g.count = f.count) :
    stretches (done ++ [f]) = buckets ++ [bucket ++ [f]] := by
  rw [stretches, List.splitBy_eq_iff] at hlast ⊢
  obtain ⟨hflatten, hne, hchain, hdiffer⟩ := hlast
  refine ⟨?_, ?_, ?_, ?_⟩
  · simp [hflatten]
  · simpa using fun hmem => hne (List.mem_append_left _ hmem)
  · rw [List.forall_mem_append, List.forall_mem_singleton] at hchain ⊢
    refine ⟨hchain.1, List.isChain_append.2 ⟨hchain.2, List.isChain_singleton f, ?_⟩⟩
    intro g hg f' hf'
    rw [List.head?_singleton, Option.mem_some_iff] at hf'
    rw [← hf', beq_iff_eq]
    exact hcount g (List.mem_of_mem_getLast? hg)
  · rw [List.isChain_append] at hdiffer ⊢
    refine ⟨hdiffer.1, List.isChain_singleton _, ?_⟩
    intro earlier hearlier later hlater
    obtain ⟨hearlier', hbucket, hcounts⟩ := hdiffer.2.2 earlier hearlier bucket rfl
    rw [List.head?_singleton, Option.mem_some_iff] at hlater
    subst hlater
    refine ⟨hearlier', by simp, ?_⟩
    rwa [List.head_append_of_ne_nil]

/-- A firing with another count begins a stretch. -/
lemma stretches_append_cons_of_count_ne (rest : List Firing)
    (hcount : ∀ g ∈ done.getLast?, g.count ≠ f.count) :
    stretches (done ++ f :: rest) = stretches done ++ stretches (f :: rest) := by
  apply List.splitBy_append_cons
  intro g hg
  exact beq_false_of_ne (hcount g hg)

/-- The last firing is in the last stretch. -/
lemma exists_stretches_eq_concat {g : Firing} (hg : fs.getLast? = some g) :
    ∃ earlier last, stretches fs = earlier ++ [last] ∧ last ≠ [] ∧
      ∀ g' ∈ last, g'.count = g.count := by
  rcases List.eq_nil_or_concat' (stretches fs) with hnil | ⟨earlier, last, hlast⟩
  · rw [List.splitBy_eq_nil.1 hnil] at hg
    cases hg
  · have hmem : last ∈ stretches fs := by simp [hlast]
    have hne : last ≠ [] := List.ne_nil_of_mem_splitBy hmem
    have hfs : fs = earlier.flatten ++ last := by
      rw [← List.flatten_splitBy (fun f g => f.count == g.count) fs, ← stretches, hlast,
        List.flatten_append, List.flatten_singleton]
    rw [hfs, List.getLast?_append_of_ne_nil _ hne] at hg
    exact ⟨earlier, last, hlast, hne,
      fun g' hg' => count_eq_of_mem_stretches hmem hg' (List.mem_of_getLast? hg)⟩

/-- The last stretch begins with the count of the last firing. -/
lemma head?_getLast?_stretches (fs : List Firing) :
    ((stretches fs).getLast?.bind List.head?).map Firing.count = fs.getLast?.map Firing.count := by
  cases hlast : fs.getLast? with
  | none =>
    rw [List.getLast?_eq_none_iff.1 hlast]
    rfl
  | some g =>
    obtain ⟨earlier, last, hstretches, hne, hcounts⟩ := exists_stretches_eq_concat hlast
    rw [hstretches, List.getLast?_concat, Option.bind_some, List.head?_eq_some_head hne,
      Option.map_some, Option.map_some, hcounts _ (List.head_mem hne)]

/-! ### Filling the buckets -/

/-- Puts a firing into the last bucket if its count is that of the bucket, and otherwise into a new
one, unless there are enough. -/
def place? (buckets : List (List Firing)) (f : Firing) : Option (List (List Firing)) :=
  if (buckets.getLast?.bind List.head?).map Firing.count = some f.count then
    some (buckets.modifyLast (· ++ [f]))
  else if maxLines ≤ buckets.length then none
  else some (buckets ++ [[f]])

/-- Puts firings into buckets until there is no place for one. -/
def gather (buckets : List (List Firing)) : List Firing → List (List Firing)
  | [] => buckets
  | f :: fs =>
    match place? buckets f with
    | none => buckets
    | some buckets => gather buckets fs

/-- If the buckets are the stretches of the firings that have come, they are so with one more
firing, unless this begins a stretch and there are enough of them. -/
lemma place?_stretches (done : List Firing) (f : Firing) :
    (place? (stretches done) f = some (stretches (done ++ [f])) ∧
      (stretches (done ++ [f])).length ≤ max (stretches done).length maxLines) ∨
    (place? (stretches done) f = none ∧ maxLines ≤ (stretches done).length ∧
      ∀ g ∈ done.getLast?, g.count ≠ f.count) := by
  rw [place?, head?_getLast?_stretches]
  by_cases hsame : done.getLast?.map Firing.count = some f.count
  · obtain ⟨g, hg, hcount⟩ := Option.map_eq_some_iff.1 hsame
    obtain ⟨earlier, last, hlast, -, hcounts⟩ := exists_stretches_eq_concat hg
    rw [hcount] at hcounts
    rw [if_pos hsame, stretches_concat_of_count_eq hlast hcounts, hlast, List.modifyLast_concat,
      List.length_append, List.length_append]
    exact Or.inl ⟨rfl, le_max_left _ _⟩
  · have hother : ∀ g ∈ done.getLast?, g.count ≠ f.count := by
      intro g hg hcount
      rw [Option.mem_def.1 hg, Option.map_some, hcount] at hsame
      exact hsame rfl
    have hconcat : stretches (done ++ [f]) = stretches done ++ [[f]] :=
      stretches_append_cons_of_count_ne [] hother
    rw [if_neg hsame, hconcat, List.length_append, List.length_singleton]
    split_ifs with hfull
    · exact Or.inr ⟨rfl, hfull, hother⟩
    · exact Or.inl ⟨rfl, by omega⟩

/-- The buckets are the first stretches of all the firings. -/
lemma gather_stretches (done rest : List Firing) (hdone : (stretches done).length ≤ maxLines) :
    gather (stretches done) rest = (stretches (done ++ rest)).take maxLines := by
  induction rest generalizing done with
  | nil => rw [gather, List.append_nil, List.take_of_length_le hdone]
  | cons f rest ih =>
    rcases place?_stretches done f with ⟨hplace, hlength⟩ | ⟨hplace, hfull, hother⟩
    · simp only [gather, hplace]
      rw [ih _ (hlength.trans (max_le hdone le_rfl)), List.append_assoc, List.singleton_append]
    · -- The firing and all that come after it are in later stretches.
      have henough : (stretches done).length = maxLines := Nat.le_antisymm hdone hfull
      simp only [gather, hplace]
      rw [stretches_append_cons_of_count_ne rest hother, ← henough, List.take_left]

/-! ### The lines -/

/-- The firings of a bucket by their keys in ascending order. -/
def byKey (bucket : List Firing) : List Firing := bucket.mergeSort fun f g => f.key ≤ g.key

/-- The line for a bucket, which should not be empty. -/
def lineChecked (bucket : List Firing) : Except Service.Error ContentionLine :=
  match (byKey bucket).head? with
  | none => .error (.invariant "empty contention bucket")
  | some f => .ok
      { count := f.count
        keys := ((byKey bucket).take maxKeys).map Firing.key
        truncated := decide (maxKeys < (byKey bucket).length) }

/-- The report in one pass, which fails if a bucket is empty. -/
def summarizeChecked (fs : List Firing) : Except Service.Error (List ContentionLine) :=
  (gather [] fs).mapM lineChecked

/-- The line for the firings of a stretch. -/
lemma lineChecked_of_mem_stretches (hbucket : bucket ∈ stretches fs) :
    ∃ f, bucket.head? = some f ∧ lineChecked bucket = .ok (line f.count bucket) := by
  have hne : bucket ≠ [] := List.ne_nil_of_mem_splitBy hbucket
  have hperm : (byKey bucket).Perm bucket := List.mergeSort_perm ..
  have hne' : byKey bucket ≠ [] := by
    intro hnil
    rw [hnil] at hperm
    exact hne hperm.nil_eq.symm
  have hcount : ((byKey bucket).head hne').count = (bucket.head hne).count :=
    count_eq_of_mem_stretches hbucket (hperm.subset (List.head_mem hne')) (List.head_mem hne)
  have hkeys : (byKey bucket).map Firing.key = sortedKeys bucket :=
    List.map_mergeSort fun _ _ _ _ => rfl
  refine ⟨bucket.head hne, List.head?_eq_some_head hne, ?_⟩
  simp only [lineChecked, List.head?_eq_some_head hne']
  rw [hcount, List.map_take, hkeys, hperm.length_eq, line]

lemma mapM_lineChecked (hbuckets : ∀ bucket ∈ buckets, bucket ∈ stretches fs) :
    buckets.mapM lineChecked =
      .ok (buckets.filterMap fun bucket => bucket.head?.map fun f => line f.count bucket) := by
  induction buckets with
  | nil => rfl
  | cons bucket buckets ih =>
    rw [List.forall_mem_cons] at hbuckets
    obtain ⟨f, hf, hline⟩ := lineChecked_of_mem_stretches hbuckets.1
    rw [List.mapM_cons, hline, ih hbuckets.2, List.filterMap_cons_some (by rw [hf]; rfl)]
    rfl

/-- One pass makes the report, without an error. -/
lemma summarizeChecked_eq (fs : List Firing) : summarizeChecked fs = .ok (summarize fs) := by
  have hgather : gather [] fs = (stretches fs).take maxLines :=
    gather_stretches [] fs (Nat.zero_le _)
  rw [summarizeChecked, hgather, mapM_lineChecked fun _ hmem => List.mem_of_mem_take hmem,
    summarize]

end CronHeatMap.Contention
