import CronHeatMap.Query
import CronHeatMap.Proofs.Text.Blank
import CronHeatMap.Proofs.Text.Lines

/-!
# The lines of a query

A query asks about the lines of its expressions that are not blank. As blanks are dropped around each
line, it does not matter which of the line endings a text has, nor which blanks stand around the whole
of it (`listed_trim`). Texts below one another list the lines of the one and then those of the other
(`listed_append_cons`), and only a blank text lists nothing (`listed_eq_nil_iff`).
-/

namespace CronHeatMap

namespace Text

variable {c : Char} {cs : List Char}

/-- What stands between line feeds and is not blank, without the blanks around it. -/
def listed (cs : List Char) : List (List Char) :=
  ((cs.splitOn '\n').map trim).filter (!·.isEmpty)

/-! ### Line endings -/

/-- The carriage return of a line ending is a blank. -/
lemma trim_dropReturn (line : List Char) : trim (dropReturn line) = trim line := by
  rw [dropReturn]
  split_ifs with hreturn
  · obtain ⟨rest, rfl⟩ := List.getLast?_eq_some_iff.1 hreturn
    rw [List.dropLast_concat, trim_concat_of_isBlank (by decide)]
  · rfl

/-- Closing lines does not change what is listed. -/
lemma filter_trim_closeLines (pieces : List (List Char)) :
    ((closeLines pieces).map trim).filter (!·.isEmpty) =
      (pieces.map trim).filter (!·.isEmpty) := by
  induction pieces using closeLines.induct with
  | case1 => rfl
  | case2 last hempty =>
    rw [List.isEmpty_iff] at hempty
    subst hempty
    rfl
  | case3 last hempty => rw [closeLines, if_neg hempty]
  | case4 line more hmore ih =>
    rw [closeLines, List.map_cons, List.map_cons, trim_dropReturn, List.filter_cons,
      List.filter_cons, ih]
    exact hmore

lemma filter_trim_lines (cs : List Char) :
    ((lines cs).map trim).filter (!·.isEmpty) = listed cs := by
  rw [lines, filter_trim_closeLines, pieces_eq_splitOnP]
  rfl

/-! ### Texts below one another -/

lemma listed_append_cons (a b : List Char) : listed (a ++ '\n' :: b) = listed a ++ listed b := by
  rw [listed, List.splitOn_append_cons_self, List.map_append, List.filter_append]
  rfl

/-- A text in one line is listed unless it is blank. -/
lemma listed_of_notMem (h : '\n' ∉ cs) : listed cs = [trim cs].filter (!·.isEmpty) := by
  rw [listed, List.splitOn_eq_singleton h, List.map_singleton]

/-! ### Blanks -/

/-- A blank in front belongs to the first line, or it ends a line without anything in it. -/
lemma listed_cons_of_isBlank (hc : isBlank c = true) (cs : List Char) :
    listed (c :: cs) = listed cs := by
  by_cases hfeed : c = '\n'
  · subst hfeed
    exact listed_append_cons [] cs
  by_cases hmem : '\n' ∈ cs
  · obtain ⟨a, b, rfl, ha⟩ := List.eq_append_cons_of_mem hmem
    have hone : '\n' ∉ c :: a := List.not_mem_cons_of_ne_of_not_mem (Ne.symm hfeed) ha
    rw [← List.cons_append, listed_append_cons, listed_append_cons, listed_of_notMem hone,
      listed_of_notMem ha, trim_cons_of_isBlank hc]
  · have hone : '\n' ∉ c :: cs := List.not_mem_cons_of_ne_of_not_mem (Ne.symm hfeed) hmem
    rw [listed_of_notMem hone, listed_of_notMem hmem, trim_cons_of_isBlank hc]

/-- A blank at the end belongs to the last line, or it ends a line that is listed as it is. -/
lemma listed_concat_of_isBlank (hc : isBlank c = true) (cs : List Char) :
    listed (cs ++ [c]) = listed cs := by
  by_cases hfeed : c = '\n'
  · subst hfeed
    exact (listed_append_cons cs []).trans (List.append_nil _)
  by_cases hmem : '\n' ∈ cs
  · -- Only the text below the line feed still ends with the blank.
    obtain ⟨a, b, rfl, -⟩ := List.eq_append_cons_of_mem hmem
    rw [List.append_assoc, List.cons_append, listed_append_cons, listed_append_cons,
      listed_concat_of_isBlank hc b]
  · have hone : '\n' ∉ cs ++ [c] := by simp [hmem, Ne.symm hfeed]
    rw [listed_of_notMem hone, listed_of_notMem hmem, trim_concat_of_isBlank hc]
termination_by cs.length

lemma listed_trimStart (cs : List Char) : listed (trimStart cs) = listed cs := by
  induction cs with
  | nil => rfl
  | cons c cs ih =>
    rw [trimStart, List.dropWhile_cons]
    split_ifs with hc
    · exact ih.trans (listed_cons_of_isBlank hc cs).symm
    · rfl

lemma listed_trimEnd (cs : List Char) : listed (trimEnd cs) = listed cs := by
  induction cs using List.reverseRecOn with
  | nil => rfl
  | append_singleton cs c ih =>
    by_cases hc : isBlank c = true
    · rw [trimEnd_concat_of_isBlank hc, ih, listed_concat_of_isBlank hc]
    · rw [trimEnd_concat_of_not_isBlank hc]

/-- The blanks around a text do not count. -/
lemma listed_trim (cs : List Char) : listed (trim cs) = listed cs := by
  rw [trim, listed_trimEnd, listed_trimStart]

/-- Cutting a text loses its line feeds only. -/
lemma flatten_splitOn (cs : List Char) :
    (cs.splitOn '\n').flatten = cs.filter (· ≠ '\n') := by
  induction cs with
  | nil => rfl
  | cons c cs ih =>
    obtain ⟨p, ps, hps⟩ := List.exists_cons_of_ne_nil (List.splitOn_ne_nil '\n' cs)
    rw [List.splitOn_cons_eq_if_modifyHead, List.filter_cons, ← ih, hps]
    by_cases hfeed : c = '\n' <;> simp [hfeed]

/-- Nothing is listed exactly if the text consists of blanks, some of which may be line feeds. -/
lemma listed_eq_nil_iff : listed cs = [] ↔ ∀ c ∈ cs, isBlank c = true := by
  have hlines : listed cs = [] ↔ ∀ line ∈ cs.splitOn '\n', trim line = [] := by
    simp [listed]
  simp only [hlines, trim_eq_nil_iff]
  rw [← List.forall_mem_flatten, flatten_splitOn]
  constructor
  · intro h c hc
    by_cases hfeed : c = '\n'
    · subst hfeed
      decide
    · exact h c (List.mem_filter.2 ⟨hc, by simpa using hfeed⟩)
  · intro h c hc
    exact h c (List.mem_of_mem_filter hc)

end Text

namespace Query

/-- What a query asks about is what its expressions list. -/
lemma lines_eq (q : Query) : q.lines = (Text.listed q.expressions.toList).map String.ofList := by
  rw [lines, Text.filter_trim_lines]

/-- The expressions of a query consist of blanks, if of anything. -/
def IsBlank (q : Query) : Prop := ∀ c ∈ q.expressions.toList, Text.isBlank c = true

instance (q : Query) : Decidable q.IsBlank :=
  List.decidableBAll (fun c => Text.isBlank c = true) q.expressions.toList

/-- A query asks about nothing exactly if its expressions are blank. -/
lemma lines_eq_nil_iff (q : Query) : q.lines = [] ↔ q.IsBlank := by
  rw [lines_eq, List.map_eq_nil_iff, Text.listed_eq_nil_iff, IsBlank]

end Query

end CronHeatMap
