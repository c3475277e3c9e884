import CronHeatMap.Text.Lines
import Mathlib.Tactic.Common

/-!
# Cutting what was joined

Texts that hold no separator come back unchanged when they are joined by separators and cut again,
and no piece of a text holds a separator. A single cut is made at the first separator
(`cutAt_eq_some_iff`).
-/

namespace CronHeatMap.Text

/-- The first separator is where a text without one ends. -/
lemma cutAt_append_cons {p : Char → Bool} {a : List Char} {c : Char}
    (ha : ∀ x ∈ a, p x = false) (hc : p c = true) (b : List Char) :
    cutAt p (a ++ c :: b) = some (a, b) := by
  induction a with
  | nil => simp [cutAt, hc]
  | cons x a ih =>
    have hx : p x = false := ha x List.mem_cons_self
    have ha' : ∀ y ∈ a, p y = false := fun y hy => ha y (List.mem_cons_of_mem _ hy)
    simp [cutAt, hx, ih ha']

lemma cutAt_eq_none_iff {p : Char → Bool} {cs : List Char} :
    cutAt p cs = none ↔ ∀ c ∈ cs, p c = false := by
  induction cs with
  | nil => simp [cutAt]
  | cons c cs ih => cases hc : p c <;> simp [cutAt, hc, ih]

/-- A text is cut at its first separator. -/
lemma cutAt_eq_some_iff {p : Char → Bool} {cs a b : List Char} :
    cutAt p cs = some (a, b) ↔ ∃ c, p c = true ∧ (∀ x ∈ a, p x = false) ∧ cs = a ++ c :: b := by
  constructor
  · intro h
    induction cs generalizing a with
    | nil => simp [cutAt] at h
    | cons x cs ih =>
      rw [cutAt] at h
      split_ifs at h with hx
      · cases h
        exact ⟨x, hx, by simp, rfl⟩
      · obtain ⟨⟨a', b'⟩, hcut, hab⟩ := Option.map_eq_some_iff.1 h
        cases hab
        obtain ⟨c, hc, ha, rfl⟩ := ih hcut
        exact ⟨c, hc, List.forall_mem_cons.2 ⟨eq_false_of_ne_true hx, ha⟩, rfl⟩
  · rintro ⟨c, hc, ha, rfl⟩
    exact cutAt_append_cons ha hc b

/-- The pieces are those of the standard library. -/
lemma pieces_eq_splitOnP (isSep : Char → Bool) (cs : List Char) :
    pieces isSep cs = cs.splitOnP isSep := by
  induction cs with
  | nil => rfl
  | cons c cs ih =>
    rw [pieces, ih, List.splitOnP_cons_eq_if_modifyHead]
    obtain ⟨p, ps, hps⟩ := List.exists_cons_of_ne_nil (List.splitOnP_ne_nil isSep cs)
    rw [hps]
    rfl

/-- Cutting undoes joining. -/
lemma pieces_intercalate {isSep : Char → Bool} {c : Char} (hc : isSep c = true)
    {ps : List (List Char)} (hne : ps ≠ []) (hps : ∀ p ∈ ps, ∀ x ∈ p, isSep x = false) :
    pieces isSep ([c].intercalate ps) = ps := by
  induction ps with
  | nil => exact absurd rfl hne
  | cons p ps ih =>
    have hp : ∀ x ∈ p, isSep x = false := hps p List.mem_cons_self
    have hps' : ∀ q ∈ ps, ∀ x ∈ q, isSep x = false := fun q hq =>
      hps q (List.mem_cons_of_mem _ hq)
    cases ps with
    | nil =>
      rw [List.intercalate_singleton, pieces_eq_splitOnP]
      exact List.splitOnP_eq_singleton hp
    | cons q qs =>
      rw [List.intercalate_cons_cons, List.append_assoc, List.singleton_append, pieces_eq_splitOnP,
        List.splitOnP_append_cons_of_forall_mem hp c hc, ← pieces_eq_splitOnP, ih (by simp) hps']

/-- Pieces hold no separator. -/
lemma isSep_of_mem_pieces {isSep : Char → Bool} {cs p : List Char} (hp : p ∈ pieces isSep cs) :
    ∀ c ∈ p, isSep c = false := by
  induction cs generalizing p with
  | nil => simp_all [pieces]
  | cons c cs ih =>
    rw [pieces] at hp
    split_ifs at hp with hc
    · rcases List.mem_cons.1 hp with rfl | hp
      · simp
      · exact ih hp
    · cases hcs : pieces isSep cs with
      | nil => exact absurd hcs (pieces_ne_nil isSep cs)
      | cons first more =>
        rw [hcs] at hp
        rcases List.mem_cons.1 hp with rfl | hp
        · rw [List.forall_mem_cons]
          exact ⟨by simpa using hc, ih (by simp [hcs])⟩
        · exact ih (by simp [hcs, hp])

/-! ### Fragments -/

/-- A text that holds something, none of it a line ending. -/
def IsFragment (cs : List Char) : Prop := cs ≠ [] ∧ ∀ c ∈ cs, isBreak c = false

lemma isFragment_of_mem_fragments {cs p : List Char} (hp : p ∈ fragments cs) : IsFragment p := by
  obtain ⟨hpiece, hne⟩ := List.mem_filter.1 hp
  exact ⟨by simpa using hne, isSep_of_mem_pieces hpiece⟩

/-- Fragments on a line each are found again. -/
lemma fragments_intercalate {ps : List (List Char)} (hps : ∀ p ∈ ps, IsFragment p) :
    fragments (['\n'].intercalate ps) = ps := by
  by_cases hne : ps = []
  · subst hne
    rfl
  · rw [fragments, pieces_intercalate (by decide) hne fun p hp => (hps p hp).2,
      List.filter_eq_self]
    intro p hp
    simpa using (hps p hp).1

end CronHeatMap.Text
