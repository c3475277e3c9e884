import CronHeatMap.Firing
import CronHeatMap.Proofs.Text.Lines
import CronHeatMap.Proofs.Text.Numeral
import Mathlib.Data.Option.Basic

/-!
# Firings and rows

A row has a firing exactly if it spells one that is well-formed: on the grid, with a label, with
events and with expressions that each take one line. `Row.firing?_ofFiring` reads a firing from the
row that spells it, and `Row.wellFormed_of_firing?` says that nothing else is ever read from a row.
-/

namespace CronHeatMap

/-- The firing can be spelled by a row. -/
structure Firing.WellFormed (f : Firing) : Prop where
  key_ne_empty : f.key ≠ ""
  onGrid : f.OnGrid
  count_pos : 0 < f.count
  count_lt : f.count < countBound
  expressions_ne_nil : f.expressions ≠ []
  isFragment : ∀ x ∈ f.expressions, Text.IsFragment x.toList

/-! ### Columns -/

@[simp] lemma present?_eq_some_iff {column : Option String} {text : String} :
    present? column = some text ↔ column = some text ∧ text ≠ "" := by
  rw [present?, Option.filter_eq_some_iff, decide_eq_true_eq]

/-- An empty column is a missing one. -/
@[simp] lemma present?_filter (column : Option String) :
    present? (column.filter (· ≠ "")) = present? column := by
  rw [present?, present?, Option.filter_filter]
  simp

lemma number?_decimal {n bound : Nat} (h : n < bound) :
    number? bound (some (Text.decimal n)) = some n := by
  have hne : Text.decimal n ≠ "" := by
    intro heq
    apply Text.digits_ne_nil n
    simpa [Text.decimal] using congrArg String.toList heq
  rw [number?, present?_eq_some_iff.2 ⟨rfl, hne⟩, Option.bind_some, Text.decimal,
    String.toList_ofList]
  exact Text.readBelow?_trim_digits h

lemma lt_of_number? {n bound : Nat} {column : Option String}
    (h : number? bound column = some n) : n < bound := by
  obtain ⟨text, -, hread⟩ := Option.bind_eq_some_iff.1 h
  exact Text.lt_of_readBelow?_eq_some hread

/-- Expressions on a line each are found again. -/
lemma splitExpressions_intercalate {xs : List String} (hxs : ∀ x ∈ xs, Text.IsFragment x.toList) :
    splitExpressions ("\n".intercalate xs) = xs := by
  have hcell : ("\n".intercalate xs).toList = ['\n'].intercalate (xs.map String.toList) :=
    String.toList_intercalate
  have hfragments : ∀ p ∈ xs.map String.toList, Text.IsFragment p := by
    rw [List.forall_mem_map]
    exact hxs
  rw [splitExpressions, hcell, Text.fragments_intercalate hfragments, List.map_map]
  calc xs.map (String.ofList ∘ String.toList)
      = xs.map id := List.map_congr_left fun x _ => String.ofList_toList
    _ = xs := List.map_id xs

/-! ### Rows -/

namespace Row

variable {row : Row} {f : Firing}

/-- A row has a firing exactly if each of its columns has its part of it. -/
lemma firing?_eq_some_iff : row.firing? = some f ↔
    present? row.key = some f.key ∧ number? hoursPerDay row.hour = some f.hour ∧
      number? minutesPerHour row.minute = some f.minute ∧
      number? countBound row.count = some f.count ∧
      (∃ cell, present? row.expressions = some cell ∧ splitExpressions cell = f.expressions) ∧
      0 < f.count ∧ f.expressions ≠ [] := by
  constructor
  · intro h
    simp only [firing?, Option.bind_eq_bind, Option.bind_eq_some_iff, Option.guard_eq_some',
      Option.pure_def, Option.some_inj] at h
    obtain ⟨key, hkey, hour, hhour, minute, hminute, count, hcount, cell, hcell, -,
      ⟨hpos, hne⟩, rfl⟩ := h
    exact ⟨hkey, hhour, hminute, hcount, ⟨cell, hcell, rfl⟩, Nat.pos_of_ne_zero hpos, hne⟩
  · rintro ⟨hkey, hhour, hminute, hcount, ⟨cell, hcell, hsplit⟩, hpos, hne⟩
    have hguard : f.count ≠ 0 ∧ f.expressions ≠ [] := ⟨Nat.pos_iff_ne_zero.1 hpos, hne⟩
    simp [firing?, hkey, hhour, hminute, hcount, hcell, hsplit, hguard]

/-- Reading a row undoes spelling a firing. -/
lemma firing?_ofFiring (hf : f.WellFormed) : (ofFiring f).firing? = some f := by
  have hcell : "\n".intercalate f.expressions ≠ "" := by
    intro hempty
    apply hf.expressions_ne_nil
    rw [← splitExpressions_intercalate hf.isFragment, hempty]
    rfl
  rw [firing?_eq_some_iff]
  exact ⟨present?_eq_some_iff.2 ⟨rfl, hf.key_ne_empty⟩, number?_decimal hf.onGrid.1,
    number?_decimal hf.onGrid.2, number?_decimal hf.count_lt,
    ⟨_, present?_eq_some_iff.2 ⟨rfl, hcell⟩, splitExpressions_intercalate hf.isFragment⟩,
    hf.count_pos, hf.expressions_ne_nil⟩

/-- What is read from a row is well-formed. -/
lemma wellFormed_of_firing? (h : row.firing? = some f) : f.WellFormed := by
  obtain ⟨hkey, hhour, hminute, hcount, ⟨cell, -, hsplit⟩, hpos, hne⟩ := firing?_eq_some_iff.1 h
  refine ⟨(present?_eq_some_iff.1 hkey).2, ⟨lt_of_number? hhour, lt_of_number? hminute⟩, hpos,
    lt_of_number? hcount, hne, ?_⟩
  intro x hx
  rw [← hsplit] at hx
  obtain ⟨p, hp, rfl⟩ := List.mem_map.1 hx
  rw [String.toList_ofList]
  exact Text.isFragment_of_mem_fragments hp

end Row

end CronHeatMap
