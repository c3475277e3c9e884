import CronHeatMap.Proofs.Color.Scale
import Mathlib.Data.Finset.Sort
import Mathlib.Order.Bounds.Basic

/-!
# Which scale is chosen

A scale is chosen by the set of the counts that occur (`select_by_counts`). Fewer than ten counts
are told apart by classes: the palette has one colour for each of them, in ascending order, and no
colour twice. From ten counts on the scale spreads them between the least and the greatest one.
These differ, so that the least count is no greatest word and one more than it is a word again.
-/

namespace CronHeatMap

/-- The counts that occur among some firings. -/
def countSet (fs : Multiset Firing) : Finset Nat := (fs.map Firing.count).toFinset

@[simp] lemma mem_countSet {fs : Multiset Firing} {c : Nat} :
    c ∈ countSet fs ↔ ∃ f ∈ fs, f.count = c := by
  simp [countSet]

/-- No palette of Oranges has a colour twice. -/
lemma Scheme.nodup_oranges (n : Nat) : (oranges n).Nodup := by
  match n with
  | 0 | 1 | 2 | 3 | 4 | 5 | 6 | 7 | 8 => decide
  | n + 9 =>
    show (oranges 9).Nodup
    decide

namespace Scale

variable {fs : List Firing} {counts : Finset Nat} {c d : Nat}

/-! ### Distinct counts -/

lemma distinct_eq_sort (fs : List Firing) :
    distinct (fs.map Firing.count) = (countSet fs).sort (· ≤ ·) := by
  apply (pairwise_distinct _).eq_of_mem_iff (Finset.sortedLT_sort (countSet fs)).pairwise
  simp

lemma length_distinct (fs : List Firing) :
    (distinct (fs.map Firing.count)).length = (countSet fs).card := by
  rw [distinct_eq_sort, Finset.length_sort]

/-! ### Classes -/

/-- The palette for some counts. -/
def classes (counts : Finset Nat) : List Rgb := Scheme.oranges (max counts.card minClasses)

/-- An ordinal scale tells the counts of a set apart by classes. -/
structure Classifies (counts : Finset Nat) (scale : Scale) : Prop where
  /-- The domain has the counts in ascending order. -/
  eq_ordinal : scale = .ordinal (counts.sort (· ≤ ·)) (classes counts)
  length_classes : (classes counts).length = max counts.card minClasses
  /-- The count at a place of the domain has the colour at this place of the palette. -/
  getElem?_classes : ∀ k c : Nat, (counts.sort (· ≤ ·))[k]? = some c →
    (classes counts)[k]? = some (scale.color c)
  color_eq_iff : ∀ c ∈ counts, ∀ d ∈ counts, scale.color c = scale.color d ↔ c = d
  /-- Any count at all has a colour of the palette. -/
  color_mem : ∀ c, scale.color c ∈ classes counts

lemma length_classes (hfew : counts.card < sequentialFrom) :
    (classes counts).length = max counts.card minClasses := by
  rw [classes, Scheme.length_oranges]
  simp only [sequentialFrom, minClasses] at hfew ⊢
  omega

lemma length_classes_pos (hfew : counts.card < sequentialFrom) : 0 < (classes counts).length := by
  rw [length_classes hfew]
  exact lt_max_of_lt_right (by decide)

/-- An ordinal scale takes the colour of a count from its palette. -/
lemma getElem?_classes (hfew : counts.card < sequentialFrom) (domain : List Nat) (c : Nat) :
    (classes counts)[domain.idxOf c % (classes counts).length]? =
      some (color (.ordinal domain (classes counts)) c) := by
  have hlt := Nat.mod_lt (domain.idxOf c) (length_classes_pos hfew)
  rw [color, colorIn, List.getD_eq_getElem?_getD, List.getElem?_eq_getElem hlt, Option.getD_some]

lemma getElem?_classes_of_getElem? (hfew : counts.card < sequentialFrom) {k : Nat}
    (hk : (counts.sort (· ≤ ·))[k]? = some c) :
    (classes counts)[k]? = some (color (.ordinal (counts.sort (· ≤ ·)) (classes counts)) c) := by
  obtain ⟨hlt, rfl⟩ := List.getElem?_eq_some_iff.1 hk
  have hidx := (Finset.sort_nodup counts (· ≤ ·)).idxOf_getElem k hlt
  have hlt' : k < (classes counts).length := by
    rw [Finset.length_sort] at hlt
    rw [length_classes hfew]
    exact lt_max_of_lt_left hlt
  rw [← getElem?_classes hfew, hidx, Nat.mod_eq_of_lt hlt']

lemma classifies_ordinal (hfew : counts.card < sequentialFrom) :
    Classifies counts (.ordinal (counts.sort (· ≤ ·)) (classes counts)) where
  eq_ordinal := rfl
  length_classes := length_classes hfew
  getElem?_classes _ _ hk := getElem?_classes_of_getElem? hfew hk
  color_eq_iff := by
    intro c hc d hd
    constructor
    · intro hcolor
      obtain ⟨i, hi⟩ := List.mem_iff_getElem?.1 ((Finset.mem_sort (· ≤ ·)).2 hc)
      obtain ⟨j, hj⟩ := List.mem_iff_getElem?.1 ((Finset.mem_sort (· ≤ ·)).2 hd)
      have hi' := getElem?_classes_of_getElem? hfew hi
      have hj' := getElem?_classes_of_getElem? hfew hj
      rw [hcolor, ← hj'] at hi'
      have hlt : i < (classes counts).length := by
        rw [hj'] at hi'
        exact (List.getElem?_eq_some_iff.1 hi').1
      rw [List.getElem?_inj hlt (Scheme.nodup_oranges _)] at hi'
      rw [hi', hj, Option.some_inj] at hi
      exact hi.symm
    · rintro rfl
      rfl
  color_mem c := List.mem_of_getElem? (getElem?_classes hfew _ c)

/-! ### Ends -/

/-- A sequential scale goes from the least to the greatest count of a set, and these differ. -/
def Spans (counts : Finset Nat) (scale : Scale) : Prop :=
  ∃ h : counts.Nonempty, scale = .sequential (counts.min' h) (counts.max' h) ∧
    counts.min' h < counts.max' h

lemma head?_sort (h : counts.Nonempty) :
    (counts.sort (· ≤ ·)).head? = some (counts.min' h) := by
  rw [Finset.min'_eq_sorted_zero, List.head?_eq_getElem?, List.getElem?_eq_getElem]

lemma getLast?_sort (h : counts.Nonempty) :
    (counts.sort (· ≤ ·)).getLast? = some (counts.max' h) := by
  rw [Finset.max'_eq_sorted_last, List.getLast?_eq_getElem?, List.getElem?_eq_getElem]

/-! ### Words of 32 bits -/

/-- A number as a word of the size of a count, unless it is too large for that. -/
def word? (n : Nat) : Option Nat := if n < countBound then some n else none

/-- The ends of a sequential scale, computed with words. What stands in for a missing highest count
is computed also when there is one. -/
def sequentialEndsChecked (highest lowest : Option Nat) : Option (Nat × Nat) := do
  let low := lowest.getD 1
  let next ← word? (1 + low)
  return (low, highest.getD next)

/-- The scale for the counts of some firings, computed with words. -/
def selectChecked (fs : List Firing) : Option Scale := do
  let domain := distinct (fs.map Firing.count)
  let classes := max domain.length minClasses
  if sequentialFrom ≤ classes then
    let (low, high) ← sequentialEndsChecked domain.getLast? domain.head?
    return .sequential low high
  else return .ordinal domain (Scheme.oranges classes)

-- With the greatest word as the lowest count there would be no next one.
example : sequentialEndsChecked (some 7) (some (countBound - 1)) = none := by decide

/-! ### The choice -/

lemma select_of_few (hfew : (countSet fs).card < sequentialFrom) :
    select fs = .ordinal ((countSet fs).sort (· ≤ ·)) (classes (countSet fs)) ∧
      selectChecked fs = some (select fs) := by
  have hclasses : ¬ sequentialFrom ≤ max (countSet fs).card minClasses :=
    Nat.not_le.2 (max_lt hfew (by decide))
  have hselect : select fs = .ordinal ((countSet fs).sort (· ≤ ·)) (classes (countSet fs)) := by
    rw [select, ofCounts, length_distinct, if_neg hclasses, distinct_eq_sort, classes]
  refine ⟨hselect, ?_⟩
  rw [hselect, selectChecked, length_distinct, if_neg hclasses, distinct_eq_sort, classes]
  rfl

lemma select_of_many (hmany : sequentialFrom ≤ (countSet fs).card) (h : (countSet fs).Nonempty) :
    select fs = .sequential ((countSet fs).min' h) ((countSet fs).max' h) := by
  have hclasses : sequentialFrom ≤ max (countSet fs).card minClasses := le_max_of_le_left hmany
  rw [select, ofCounts, length_distinct, if_pos hclasses, distinct_eq_sort, head?_sort h,
    getLast?_sort h]
  rfl

/-- Above the least of two counts there is another one, so that the next number is no larger than a
count. -/
lemma word?_of_lt {low high : Nat} (hlt : low < high) (hhigh : high < countBound) :
    word? (1 + low) = some (1 + low) := by
  rw [word?, if_pos]
  omega

lemma min'_lt_max'_countSet (hmany : sequentialFrom ≤ counts.card) (h : counts.Nonempty) :
    counts.min' h < counts.max' h :=
  Finset.min'_lt_max'_of_card counts (Nat.lt_of_lt_of_le (by decide) hmany)

lemma selectChecked_of_many (hmany : sequentialFrom ≤ (countSet fs).card)
    (hwords : ∀ f ∈ fs, f.count < countBound) : selectChecked fs = some (select fs) := by
  have h : (countSet fs).Nonempty := Finset.card_pos.1 (Nat.lt_of_lt_of_le (by decide) hmany)
  have hclasses : sequentialFrom ≤ max (countSet fs).card minClasses := le_max_of_le_left hmany
  obtain ⟨f, hf, hcount⟩ := mem_countSet.1 ((countSet fs).max'_mem h)
  have hhigh : (countSet fs).max' h < countBound := hcount ▸ hwords f hf
  have hword := word?_of_lt (min'_lt_max'_countSet hmany h) hhigh
  rw [select_of_many hmany h, selectChecked, length_distinct, if_pos hclasses, distinct_eq_sort,
    head?_sort h, getLast?_sort h, sequentialEndsChecked, Option.getD_some, hword]
  rfl

/-- A scale is chosen by the set of the counts: few of them get a class each, and more of them are
spread between the least and the greatest one. The choice needs no number that is larger than a
word. -/
theorem select_by_counts (fs : List Firing) :
    ((countSet fs).card < sequentialFrom → Classifies (countSet fs) (select fs)) ∧
    (sequentialFrom ≤ (countSet fs).card → Spans (countSet fs) (select fs)) ∧
    ((∀ f ∈ fs, f.count < countBound) → selectChecked fs = some (select fs)) ∧
    ∀ gs : List Firing, countSet gs = countSet fs → select gs = select fs := by
  refine ⟨fun hfew => ?_, fun hmany => ?_, fun hwords => ?_, fun gs hcounts => ?_⟩
  · rw [(select_of_few hfew).1]
    exact classifies_ordinal hfew
  · have h : (countSet fs).Nonempty := Finset.card_pos.1 (Nat.lt_of_lt_of_le (by decide) hmany)
    exact ⟨h, select_of_many hmany h, min'_lt_max'_countSet hmany h⟩
  · rcases Nat.lt_or_ge (countSet fs).card sequentialFrom with hfew | hmany
    · exact (select_of_few hfew).2
    · exact selectChecked_of_many hmany hwords
  · rw [select, select, ofCounts, ofCounts, distinct_eq_sort, distinct_eq_sort, hcounts]

/-- Nine and ten of the greatest words, and the ten once more in the reverse order. -/
theorem select_by_counts_near_bound :
    let firings (n : Nat) : List Firing :=
      (List.range n).map fun i => { (default : Firing) with count := countBound - 1 - i }
    (countSet (firings 9)).card < sequentialFrom ∧
      Classifies (countSet (firings 9)) (select (firings 9)) ∧
      sequentialFrom ≤ (countSet (firings 10)).card ∧
      Spans (countSet (firings 10)) (select (firings 10)) ∧
      (∀ f ∈ firings 10, f.count < countBound) ∧
      selectChecked (firings 10) = some (.sequential (countBound - 10) (countBound - 1)) ∧
      select (firings 10 ++ (firings 10).reverse) = select (firings 10) := by
  intro firings
  have hfew : (countSet (firings 9)).card < sequentialFrom := by decide +kernel
  have hmany : sequentialFrom ≤ (countSet (firings 10)).card := by decide +kernel
  have hwords : ∀ f ∈ firings 10, f.count < countBound := by decide +kernel
  have hcounts : countSet (firings 10 ++ (firings 10).reverse : List Firing) =
      countSet (firings 10) := by
    decide +kernel
  have hselect : select (firings 10) = .sequential (countBound - 10) (countBound - 1) := by
    decide +kernel
  obtain ⟨-, hspans, hchecked, hsame⟩ := select_by_counts (firings 10)
  refine ⟨hfew, (select_by_counts (firings 9)).1 hfew, hmany, hspans hmany, hwords, ?_,
    hsame _ hcounts⟩
  rw [← hselect]
  exact hchecked hwords

end Scale

end CronHeatMap
