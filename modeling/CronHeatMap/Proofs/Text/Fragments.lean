import CronHeatMap.Proofs.Text.Lines

/-!
# Lines and fragments

A text is cut in two ways: into lines, which end at line feeds and lose a carriage return there, and
into fragments, which end at either character and hold something. In a text whose carriage returns
stand before line feeds only, the fragments are the lines that hold something
(`fragments_eq_filter_lines`).
-/

namespace CronHeatMap.Text

variable {a b cs : List Char}

/-- Every carriage return is followed by a line feed. -/
def ReturnsPaired (cs : List Char) : Prop := ∀ i, cs[i]? = some '\r' → cs[i + 1]? = some '\n'

instance (cs : List Char) : Decidable (ReturnsPaired cs) :=
  decidable_of_iff (∀ i < cs.length, cs[i]? = some '\r' → cs[i + 1]? = some '\n')
    ⟨fun h i hi => h i (List.getElem?_eq_some_iff.1 hi).1 hi, fun h i _ => h i⟩

namespace ReturnsPaired

lemma of_append (h : ReturnsPaired (a ++ b)) : ReturnsPaired b := by
  intro i hi
  have hnext := h (a.length + i)
  rw [List.getElem?_append_right (by omega), Nat.add_assoc,
    List.getElem?_append_right (by omega)] at hnext
  simpa [hi] using hnext

/-- Behind a carriage return there is a line feed. -/
lemma exists_eq_cons (h : ReturnsPaired (a ++ '\r' :: b)) : ∃ b', b = '\n' :: b' := by
  have hnext : b[0]? = some '\n' := h.of_append 0 rfl
  rw [← List.head?_eq_getElem?] at hnext
  exact List.head?_eq_some_iff.1 hnext

/-- Without line feeds there are no carriage returns. -/
lemma return_notMem (h : ReturnsPaired cs) (hfeed : '\n' ∉ cs) : '\r' ∉ cs := by
  intro hmem
  obtain ⟨a, b, rfl⟩ := List.append_of_mem hmem
  obtain ⟨b', rfl⟩ := h.exists_eq_cons
  simp at hfeed

end ReturnsPaired

/-! ### Lines -/

lemma pieces_feed (cs : List Char) : pieces (· == '\n') cs = cs.splitOn '\n' :=
  pieces_eq_splitOnP _ cs

/-- The first line of a text ends at its first line feed. -/
lemma lines_append_cons (ha : '\n' ∉ a) (b : List Char) :
    lines (a ++ '\n' :: b) = dropReturn a :: lines b := by
  have hpieces : pieces (· == '\n') (a ++ '\n' :: b) = a :: pieces (· == '\n') b := by
    rw [pieces_feed, pieces_feed, List.splitOn_append_cons_self, List.splitOn_eq_singleton ha]
    rfl
  rw [lines, hpieces, closeLines, lines]
  exact fun hnil => pieces_ne_nil _ _ hnil

/-- A text without line feeds is its only line if it holds something. -/
lemma lines_of_notMem (hfeed : '\n' ∉ cs) : lines cs = [cs].filter (!·.isEmpty) := by
  rw [lines, pieces_feed, List.splitOn_eq_singleton hfeed]
  cases cs with
  | nil => rfl
  | cons c cs => rfl

/-! ### Fragments -/

lemma fragments_append_cons {c : Char} (hc : isBreak c = true) (a b : List Char) :
    fragments (a ++ c :: b) = fragments a ++ fragments b := by
  rw [fragments, pieces_eq_splitOnP, List.splitOnP_append_cons a b hc, List.filter_append,
    ← pieces_eq_splitOnP, ← pieces_eq_splitOnP]
  rfl

/-- A text without line endings is its only fragment if it holds something. -/
lemma fragments_of_notMem (hfeed : '\n' ∉ cs) (hreturn : '\r' ∉ cs) :
    fragments cs = [cs].filter (!·.isEmpty) := by
  have hbreak : ∀ c ∈ cs, isBreak c = false := by
    intro c hc
    simp only [isBreak, Bool.or_eq_false_iff, beq_eq_false_iff_ne]
    exact ⟨ne_of_mem_of_not_mem hc hfeed, ne_of_mem_of_not_mem hc hreturn⟩
  rw [fragments, pieces_eq_splitOnP, List.splitOnP_eq_singleton hbreak]

/-- The fragments up to the first line feed are the first line if it holds something. -/
lemma fragments_of_line (ha : '\n' ∉ a) (h : ReturnsPaired (a ++ '\n' :: b)) :
    fragments a = [dropReturn a].filter (!·.isEmpty) := by
  by_cases hreturn : '\r' ∈ a
  · obtain ⟨p, q, rfl, hp⟩ := List.eq_append_cons_of_mem hreturn
    rw [List.append_assoc, List.cons_append] at h
    obtain ⟨b', hb'⟩ := h.exists_eq_cons
    -- The line feed behind the carriage return is the one that ends the line.
    have hq : q = [] := by
      cases q with
      | nil => rfl
      | cons c q =>
        obtain ⟨rfl, -⟩ := List.cons.inj hb'
        simp at ha
    subst hq
    have hfeed : '\n' ∉ p := fun hmem => ha (List.mem_append_left _ hmem)
    rw [fragments_append_cons (by decide), fragments_of_notMem hfeed hp, dropReturn,
      List.getLast?_concat, if_pos rfl, List.dropLast_concat]
    exact List.append_nil _
  · have hkept : dropReturn a = a := by
      rw [dropReturn, if_neg fun hlast => hreturn (List.mem_of_getLast? hlast)]
    rw [hkept, fragments_of_notMem ha hreturn]

/-- If carriage returns stand before line feeds only, the fragments are the lines that hold
something. -/
lemma fragments_eq_filter_lines {cs : List Char} (h : ReturnsPaired cs) :
    fragments cs = (lines cs).filter (!·.isEmpty) := by
  by_cases hmem : '\n' ∈ cs
  · obtain ⟨a, b, rfl, ha⟩ := List.eq_append_cons_of_mem hmem
    have hb : ReturnsPaired b := by
      rw [List.append_cons] at h
      exact h.of_append
    rw [fragments_append_cons (by decide), fragments_of_line ha h, fragments_eq_filter_lines hb,
      lines_append_cons ha, ← List.filter_append, List.singleton_append]
  · rw [fragments_of_notMem hmem (h.return_notMem hmem), lines_of_notMem hmem, List.filter_filter]
    simp
termination_by cs.length

end CronHeatMap.Text
