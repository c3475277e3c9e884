import CronHeatMap.Text.Blank
import Mathlib.Data.List.DropRight

/-!
# Trimming

What trimming leaves of a text: nothing if the text is blank, and all of it if there is no blank at
its ends. Blanks around a text do not matter (`trim_blanks_append`, `trim_append_blanks`), and they
are all that trimming takes away (`exists_blanks_append_trim`).
-/

namespace CronHeatMap.Text

variable {c : Char} {cs : List Char}

/-- A text that holds nothing but blanks. -/
def AllBlank (cs : List Char) : Prop := ∀ c ∈ cs, isBlank c = true

/-- A text without blanks. -/
def NoBlank (cs : List Char) : Prop := ∀ c ∈ cs, isBlank c = false

instance (cs : List Char) : Decidable (AllBlank cs) :=
  List.decidableBAll (isBlank · = true) cs

instance (cs : List Char) : Decidable (NoBlank cs) :=
  List.decidableBAll (isBlank · = false) cs

/-! ### Blanks at the ends -/

lemma trimStart_cons_of_isBlank (hc : isBlank c = true) (cs : List Char) :
    trimStart (c :: cs) = trimStart cs :=
  List.dropWhile_cons_of_pos hc

lemma trimEnd_concat_of_isBlank (hc : isBlank c = true) (cs : List Char) :
    trimEnd (cs ++ [c]) = trimEnd cs :=
  List.rdropWhile_concat_pos isBlank cs c hc

lemma trimEnd_concat_of_not_isBlank (hc : ¬ isBlank c = true) (cs : List Char) :
    trimEnd (cs ++ [c]) = cs ++ [c] :=
  List.rdropWhile_concat_neg isBlank cs c hc

lemma trim_cons_of_isBlank (hc : isBlank c = true) (cs : List Char) : trim (c :: cs) = trim cs := by
  rw [trim, trimStart_cons_of_isBlank hc, trim]

lemma trim_concat_of_isBlank (hc : isBlank c = true) (cs : List Char) :
    trim (cs ++ [c]) = trim cs := by
  have hstart : trimStart (cs ++ [c]) = trimStart cs ++ [c] ∨
      trimStart cs = [] ∧ trimStart (cs ++ [c]) = [] := by
    rw [trimStart, trimStart, List.dropWhile_append]
    split_ifs with hempty
    · exact Or.inr ⟨List.isEmpty_iff.1 hempty, List.dropWhile_cons_of_pos hc⟩
    · exact Or.inl rfl
  rcases hstart with hstart | ⟨hnil, hstart⟩
  · rw [trim, hstart, trimEnd_concat_of_isBlank hc, trim]
  · rw [trim, hstart, trim, hnil]

lemma trim_blanks_append {blanks : List Char} (hblanks : AllBlank blanks) (cs : List Char) :
    trim (blanks ++ cs) = trim cs := by
  induction blanks with
  | nil => rfl
  | cons c blanks ih =>
    obtain ⟨hc, hrest⟩ := List.forall_mem_cons.1 hblanks
    rw [List.cons_append, trim_cons_of_isBlank hc, ih hrest]

lemma trim_append_blanks {blanks : List Char} (hblanks : AllBlank blanks) (cs : List Char) :
    trim (cs ++ blanks) = trim cs := by
  induction blanks using List.reverseRecOn with
  | nil => rw [List.append_nil]
  | append_singleton blanks c ih =>
    obtain ⟨hrest, hc⟩ := List.forall_mem_append.1 hblanks
    rw [← List.append_assoc, trim_concat_of_isBlank (hc c (List.mem_singleton.2 rfl)), ih hrest]

/-! ### What trimming leaves -/

/-- A text is trimmed to nothing exactly if it consists of blanks. -/
lemma trim_eq_nil_iff : trim cs = [] ↔ ∀ c ∈ cs, isBlank c = true := by
  have hend : trim cs = [] ↔ ∀ c ∈ trimStart cs, isBlank c = true := List.rdropWhile_eq_nil_iff
  rw [hend]
  constructor
  · intro h c hc
    rw [← List.takeWhile_append_dropWhile (p := isBlank) (l := cs), List.mem_append] at hc
    rcases hc with hc | hc
    · exact List.mem_takeWhile_imp hc
    · exact h c hc
  · intro h c hc
    exact h c ((List.dropWhile_sublist isBlank).subset hc)

lemma isBlank_of_head?_trim (hc : (trim cs).head? = some c) : isBlank c = false := by
  obtain ⟨rest, hrest⟩ := List.head?_eq_some_iff.1 hc
  obtain ⟨after, hafter⟩ : trim cs <+: trimStart cs := List.rdropWhile_prefix isBlank _
  have hstart : cs.dropWhile isBlank = c :: (rest ++ after) := by
    rw [← List.cons_append, ← hrest, hafter, trimStart]
  have hne : cs.dropWhile isBlank ≠ [] := by simp [hstart]
  simpa [hstart] using List.head_dropWhile_not isBlank hne

lemma isBlank_of_getLast?_trim (hc : (trim cs).getLast? = some c) : isBlank c = false := by
  obtain ⟨hne, rfl⟩ := List.mem_getLast?_eq_getLast hc
  exact eq_false_of_ne_true (List.rdropWhile_last_not isBlank (trimStart cs) hne)

/-- A text is not changed by trimming exactly if no blank is at its ends. -/
lemma trim_eq_self_iff :
    trim cs = cs ↔ (∀ c, cs.head? = some c → isBlank c = false) ∧
      ∀ c, cs.getLast? = some c → isBlank c = false := by
  constructor
  · intro h
    rw [← h]
    exact ⟨fun c hc => isBlank_of_head?_trim hc, fun c hc => isBlank_of_getLast?_trim hc⟩
  · rintro ⟨hhead, hlast⟩
    have hstart : trimStart cs = cs := by
      rw [trimStart, List.dropWhile_eq_self_iff]
      intro hl
      simp [hhead cs[0] (by rw [List.head?_eq_getElem?, List.getElem?_eq_getElem hl])]
    have hend : trimEnd cs = cs := by
      refine List.rdropWhile_eq_self_iff.2 fun hne => ?_
      simp [hlast (cs.getLast hne) (List.getLast?_eq_some_getLast hne)]
    rw [trim, hstart, hend]

@[simp] lemma trim_trim (cs : List Char) : trim (trim cs) = trim cs :=
  trim_eq_self_iff.2 ⟨fun _ hc => isBlank_of_head?_trim hc, fun _ hc => isBlank_of_getLast?_trim hc⟩

/-- A text without blanks is not changed by trimming. -/
lemma trim_eq_self (h : NoBlank cs) : trim cs = cs :=
  trim_eq_self_iff.2
    ⟨fun c hc => h c (List.mem_of_head? hc), fun c hc => h c (List.mem_of_getLast? hc)⟩

/-- Trimming takes away blanks and nothing else. -/
lemma exists_blanks_append_trim (cs : List Char) :
    ∃ before after, AllBlank before ∧ AllBlank after ∧ cs = before ++ trim cs ++ after := by
  refine ⟨cs.takeWhile isBlank, (trimStart cs).rtakeWhile isBlank, ?_, ?_, ?_⟩
  · exact fun c hc => List.mem_takeWhile_imp hc
  · exact fun c hc => List.mem_rtakeWhile_imp hc
  · rw [List.append_assoc]
    have hend : trim cs ++ (trimStart cs).rtakeWhile isBlank = trimStart cs :=
      List.rdropWhile_append_rtakeWhile
    rw [hend]
    exact List.takeWhile_append_dropWhile.symm

end CronHeatMap.Text
