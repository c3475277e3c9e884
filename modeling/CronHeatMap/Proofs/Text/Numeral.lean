import CronHeatMap.Text.Numeral
import CronHeatMap.Proofs.Text.Blank
import Mathlib.Algebra.Group.Nat.Defs
import Mathlib.Tactic.Common

/-!
# Reading numbers that were written

The figures of a number are its last digits, as many as there are places for. Digits that are read
as a number are its figures (`readDigits?_eq_some_iff`). A number is written with its figures,
padded with zeros or not (`digits_eq_figures`, `padLeft_digits`), and is read as it was written,
with blanks around its digits or without. What is read as a number are its digits behind any zeros,
with a plus sign or without (`readNat?_eq_some_iff`).
-/

namespace CronHeatMap.Text

variable {c : Char} {cs : List Char} {d n width : Nat}

/-! ### Digits -/

lemma digitValue?_digitChar (h : d < 10) : digitValue? (digitChar d) = some d := by
  revert d
  decide

/-- A character with the value of a digit is this digit. -/
lemma digitValue?_eq_some_iff : digitValue? c = some d ↔ d < 10 ∧ c = digitChar d := by
  constructor
  · intro h
    rw [digitValue?] at h
    split_ifs at h with hdigit
    cases h
    have hlow : '0'.toNat ≤ c.toNat := hdigit.1
    have hhigh : c.toNat ≤ '9'.toNat := hdigit.2
    refine ⟨Nat.sub_lt_left_of_lt_add hlow (Nat.lt_succ_of_le hhigh), ?_⟩
    rw [digitChar, Nat.add_sub_cancel' hlow, Char.ofNat_toNat]
  · rintro ⟨hd, rfl⟩
    exact digitValue?_digitChar hd

lemma digitChar_ne (h : d < 10) (hc : digitValue? c = none) : digitChar d ≠ c := by
  rintro rfl
  rw [digitValue?_digitChar h] at hc
  cases hc

lemma isBlank_digitChar (h : d < 10) : isBlank (digitChar d) = false := by
  revert d
  decide

/-! ### Figures -/

/-- The last digits of a number, as many as `width`, with zeros in front where there are not as
many. -/
def figures : Nat → Nat → List Char
  | 0, _ => []
  | width + 1, n => figures width (n / 10) ++ [digitChar (n % 10)]

@[simp] lemma length_figures (width n : Nat) : (figures width n).length = width := by
  induction width generalizing n with
  | zero => rfl
  | succ width ih => rw [figures, List.length_append, ih, List.length_singleton]

lemma exists_of_mem_figures (hc : c ∈ figures width n) : ∃ d < 10, c = digitChar d := by
  induction width generalizing n with
  | zero => cases hc
  | succ width ih =>
    rw [figures, List.mem_append, List.mem_singleton] at hc
    rcases hc with hc | rfl
    · exact ih hc
    · exact ⟨n % 10, Nat.mod_lt n (by decide), rfl⟩

lemma isBlank_of_mem_figures (hc : c ∈ figures width n) : isBlank c = false := by
  obtain ⟨d, hd, rfl⟩ := exists_of_mem_figures hc
  exact isBlank_digitChar hd

/-! ### Reading figures -/

/-- A number goes on where the digits before have left it. -/
lemma extendNat?_append (m : Nat) (cs ds : List Char) :
    extendNat? m (cs ++ ds) = (extendNat? m cs).bind fun n => extendNat? n ds := by
  induction cs generalizing m with
  | nil => rfl
  | cons c cs ih =>
    rw [List.cons_append, extendNat?, extendNat?, Option.bind_assoc]
    simp only [ih]

/-- The last digit that is read is the one that is left when dividing by ten. -/
lemma extendNat?_zero_concat_eq_some_iff :
    extendNat? 0 (cs ++ [c]) = some n ↔
      extendNat? 0 cs = some (n / 10) ∧ digitValue? c = some (n % 10) := by
  rw [extendNat?_append, Option.bind_eq_some_iff]
  constructor
  · rintro ⟨m, hm, hc⟩
    obtain ⟨d, hd, hn⟩ := Option.bind_eq_some_iff.1 hc
    cases hn
    have hlt := (digitValue?_eq_some_iff.1 hd).1
    have hdiv : (10 * m + d) / 10 = m := by omega
    have hmod : (10 * m + d) % 10 = d := by omega
    rw [hdiv, hmod]
    exact ⟨hm, hd⟩
  · rintro ⟨hm, hd⟩
    refine ⟨n / 10, hm, ?_⟩
    rw [extendNat?, hd, Option.bind_some, extendNat?, Nat.div_add_mod]

/-- A number is read from digits exactly if they are its figures. -/
lemma extendNat?_zero_eq_some_iff :
    extendNat? 0 cs = some n ↔ n < 10 ^ cs.length ∧ cs = figures cs.length n := by
  induction cs using List.reverseRecOn generalizing n with
  | nil => simp [extendNat?, figures, eq_comm]
  | append_singleton cs c ih =>
    rw [extendNat?_zero_concat_eq_some_iff, ih, digitValue?_eq_some_iff, List.length_append,
      List.length_singleton, figures, Nat.pow_succ, Nat.div_lt_iff_lt_mul (by decide)]
    constructor
    · rintro ⟨⟨hlt, hcs⟩, -, hc⟩
      exact ⟨hlt, by rw [← hcs, ← hc]⟩
    · rintro ⟨hlt, hconcat⟩
      obtain ⟨hcs, hc⟩ := List.append_inj' hconcat rfl
      exact ⟨⟨hlt, hcs⟩, Nat.mod_lt n (by decide), List.singleton_inj.1 hc⟩

lemma readDigits?_eq_some_iff :
    readDigits? cs = some n ↔ cs ≠ [] ∧ n < 10 ^ cs.length ∧ cs = figures cs.length n := by
  cases cs with
  | nil => simp [readDigits?]
  | cons c cs => simp [readDigits?, extendNat?_zero_eq_some_iff]

lemma readDigits?_figures (hwidth : 0 < width) (hn : n < 10 ^ width) :
    readDigits? (figures width n) = some n := by
  rw [readDigits?_eq_some_iff, length_figures]
  refine ⟨List.length_pos_iff.1 ?_, hn, rfl⟩
  rwa [length_figures]

/-! ### Writing numbers -/

lemma digits_ne_nil (n : Nat) : digits n ≠ [] := by
  rw [digits]
  split_ifs <;> simp

lemma extendNat?_digits (n : Nat) : extendNat? 0 (digits n) = some n := by
  induction n using digits.induct with
  | case1 n h => simp [digits, h, extendNat?, digitValue?_digitChar h]
  | case2 n h ih =>
    rw [digits, if_neg h, extendNat?_zero_concat_eq_some_iff]
    exact ⟨ih, digitValue?_digitChar (Nat.mod_lt n (by decide))⟩

/-- A number is written with as many of its figures as it takes to read it again. -/
lemma digits_eq_figures (n : Nat) : digits n = figures (digits n).length n :=
  (extendNat?_zero_eq_some_iff.1 (extendNat?_digits n)).2

/-- With zeros in front, a number is written with its figures, if there are places for all of
them. -/
lemma padLeft_digits (hn : n < 10 ^ (width + 1)) :
    padLeft '0' (width + 1) (digits n) = figures (width + 1) n := by
  induction width generalizing n with
  | zero =>
    have hdigit : n < 10 := by simpa using hn
    simp [padLeft, digits, figures, hdigit, Nat.mod_eq_of_lt hdigit]
  | succ width ih =>
    rw [figures]
    by_cases hdigit : n < 10
    · have hzeros : List.replicate (width + 1) '0' = figures (width + 1) 0 := by
        rw [← ih (Nat.pow_pos (by decide)), digits, if_pos (by decide), List.replicate_succ']
        rfl
      rw [Nat.div_eq_of_lt hdigit, Nat.mod_eq_of_lt hdigit, ← hzeros, digits, if_pos hdigit]
      rfl
    · have hrest : n / 10 < 10 ^ (width + 1) :=
        (Nat.div_lt_iff_lt_mul (by decide)).2 (Nat.pow_succ .. ▸ hn)
      rw [← ih hrest, digits, if_neg hdigit, padLeft, padLeft, List.length_append,
        List.length_singleton, Nat.add_sub_add_right, List.append_assoc]

/-- Numbers below a hundred have two figures. -/
lemma toList_twoDigits (hn : n < 100) : (twoDigits n).toList = figures 2 n := by
  rw [twoDigits, String.toList_ofList]
  exact padLeft_digits hn

/-- Numbers below a hundred are told apart by their two digits. -/
lemma twoDigits_inj {m n : Nat} (hm : m < 100) (hn : n < 100) :
    twoDigits m = twoDigits n ↔ m = n := by
  constructor
  · intro h
    have hfigures : figures 2 m = figures 2 n := by
      rw [← toList_twoDigits hm, ← toList_twoDigits hn, h]
    have hread : readDigits? (figures 2 m) = some n := by
      rw [hfigures, readDigits?_figures (by decide) hn]
    rw [readDigits?_figures (by decide) hm] at hread
    exact Option.some.inj hread
  · rintro rfl
    rfl

/-! ### Reading what was written -/

/-- Zeros in front of a number do not matter. -/
lemma extendNat?_zeros_append (zeros : Nat) (cs : List Char) :
    extendNat? 0 (List.replicate zeros '0' ++ cs) = extendNat? 0 cs := by
  induction zeros with
  | zero => rfl
  | succ zeros ih => exact ih

/-- Digits that are read as a number are those of the number, behind zeros or not. -/
lemma readDigits?_eq_some_iff_exists_zeros :
    readDigits? cs = some n ↔ ∃ zeros, cs = List.replicate zeros '0' ++ digits n := by
  constructor
  · intro h
    obtain ⟨hne, hlt, hcs⟩ := readDigits?_eq_some_iff.1 h
    obtain ⟨width, hwidth⟩ := Nat.exists_eq_succ_of_ne_zero (mt List.length_eq_zero_iff.1 hne)
    rw [hwidth] at hlt hcs
    rw [hcs, ← padLeft_digits hlt]
    exact ⟨_, rfl⟩
  · rintro ⟨zeros, rfl⟩
    rw [readDigits?_eq_some_iff, ← extendNat?_zero_eq_some_iff, extendNat?_zeros_append]
    exact ⟨by simp [digits_ne_nil], extendNat?_digits n⟩

/-- The text is a number: its digits, maybe behind zeros, and maybe behind a plus sign. -/
def IsNumeral (cs : List Char) (n : Nat) : Prop :=
  ∃ zeros, cs = List.replicate zeros '0' ++ digits n ∨
    cs = '+' :: (List.replicate zeros '0' ++ digits n)

lemma isNumeral_digits (n : Nat) : IsNumeral (digits n) n := ⟨0, Or.inl rfl⟩

lemma isNumeral_figures (hwidth : 0 < width) (hn : n < 10 ^ width) :
    IsNumeral (figures width n) n := by
  obtain ⟨zeros, hzeros⟩ :=
    readDigits?_eq_some_iff_exists_zeros.1 (readDigits?_figures hwidth hn)
  exact ⟨zeros, Or.inl hzeros⟩

lemma exists_of_mem_zeros_append_digits {zeros : Nat}
    (hc : c ∈ List.replicate zeros '0' ++ digits n) : ∃ d < 10, c = digitChar d := by
  rw [List.mem_append, List.mem_replicate, digits_eq_figures] at hc
  rcases hc with ⟨-, rfl⟩ | hc
  · exact ⟨0, by decide, rfl⟩
  · exact exists_of_mem_figures hc

lemma IsNumeral.ne_nil (h : IsNumeral cs n) : cs ≠ [] := by
  obtain ⟨zeros, rfl | rfl⟩ := h <;> simp [digits_ne_nil]

/-- What a number is written with. -/
lemma IsNumeral.eq_plus_or_exists (h : IsNumeral cs n) (hc : c ∈ cs) :
    c = '+' ∨ ∃ d < 10, c = digitChar d := by
  obtain ⟨zeros, rfl | rfl⟩ := h
  · exact Or.inr (exists_of_mem_zeros_append_digits hc)
  · exact (List.mem_cons.1 hc).imp_right exists_of_mem_zeros_append_digits

lemma IsNumeral.noBlank (h : IsNumeral cs n) : NoBlank cs := by
  intro c hc
  rcases h.eq_plus_or_exists hc with rfl | ⟨d, hd, rfl⟩
  · rfl
  · exact isBlank_digitChar hd

/-- What is read as a number is a number, in any of the ways to write it. -/
lemma readNat?_eq_some_iff : readNat? cs = some n ↔ IsNumeral cs n := by
  rw [readNat?.eq_def, IsNumeral]
  split
  · next ds =>
    rw [readDigits?_eq_some_iff_exists_zeros]
    refine exists_congr fun zeros => ?_
    rw [List.cons_inj_right, or_iff_right]
    intro hcs
    obtain ⟨d, hd, hplus⟩ := exists_of_mem_zeros_append_digits (hcs ▸ List.mem_cons_self)
    exact digitChar_ne hd (by decide) hplus.symm
  · next hplus =>
    rw [readDigits?_eq_some_iff_exists_zeros]
    refine exists_congr fun zeros => (or_iff_left ?_).symm
    exact fun hcs => hplus _ hcs

lemma readBelow?_eq_some_iff {bound : Nat} :
    readBelow? bound cs = some n ↔ IsNumeral cs n ∧ n < bound := by
  rw [readBelow?, Option.filter_eq_some_iff, readNat?_eq_some_iff, decide_eq_true_eq]

/-- A number below the bound is read as it was written. -/
lemma readBelow?_trim_digits {bound : Nat} (h : n < bound) :
    readBelow? bound (trim (digits n)) = some n := by
  have htrim : trim (digits n) = digits n := by
    apply trim_eq_self
    intro c hc
    rw [digits_eq_figures] at hc
    exact isBlank_of_mem_figures hc
  rw [htrim, readBelow?_eq_some_iff]
  exact ⟨isNumeral_digits n, h⟩

/-- What is read stays below the bound. -/
lemma lt_of_readBelow?_eq_some {bound : Nat} (h : readBelow? bound cs = some n) : n < bound :=
  (readBelow?_eq_some_iff.1 h).2

end CronHeatMap.Text
