import CronHeatMap.Text.Utf8
import Mathlib.Tactic.Common

/-!
# Decoding what was encoded

Decoding the bytes of a text gives the text back. The bytes of one character are followed through
the decoder: the first byte begins a character whose range for the next byte admits the next byte,
and the last byte completes it, so that the decoder stands where no character has begun again.
-/

namespace CronHeatMap.Text.Utf8

/-- Characters have no surrogates, and there is a last one. -/
lemma toNat_valid (c : Char) : c.toNat < 0xD800 ∨ 0xDFFF < c.toNat ∧ c.toNat < 0x110000 := c.valid

/-! ### Single bytes -/

lemma decodeFrom_ofNat_cons (p : Option Pending) {b : Nat} (hb : b < 0x100) (bs : List UInt8) :
    decodeFrom p (UInt8.ofNat b :: bs) = (next p b).1 ++ decodeFrom (next p b).2 bs := by
  have h : (UInt8.ofNat b).toNat = b := UInt8.toNat_ofNat_of_lt' hb
  cases p <;> simp only [decodeFrom, h]

/-- A byte that completes a character. -/
lemma next_last {p : Pending} {b : Nat} (hmore : p.more = 1) (hlow : p.low ≤ b)
    (hhigh : b ≤ p.high) :
    next (some p) b = ([Char.ofNat (p.value * 64 + (b - 0x80))], none) := by
  simp [next, hlow, hhigh, hmore]

/-- A byte that carries a character on. -/
lemma next_more {p : Pending} {b : Nat} (hmore : 1 < p.more) (hlow : p.low ≤ b)
    (hhigh : b ≤ p.high) :
    next (some p) b = ([], some { more := p.more - 1, value := p.value * 64 + (b - 0x80) }) := by
  simp [next, hlow, hhigh, Nat.not_le.2 hmore]

/-- A byte that begins a character of several bytes. -/
lemma next_begin {b : Nat} {p : Pending} (h : begin? b = some p) : next none b = ([], some p) := by
  have hb : ¬ b < 0x80 := by
    intro hb
    simp only [begin?] at h
    split_ifs at h <;> omega
  simp [next, first, hb, h]

/-! ### First bytes -/

/-- The first of two bytes. -/
lemma begin?_two {n : Nat} (h : 0x80 ≤ n) (h' : n < 0x800) :
    begin? (0xC0 + n / 0x40) = some { more := 1, value := n / 0x40 } := by
  have : 0xC2 ≤ 0xC0 + n / 0x40 ∧ 0xC0 + n / 0x40 ≤ 0xDF := by omega
  simp only [begin?, this, and_self, if_true, Nat.add_sub_cancel_left]

/-- The first of three bytes admits the second one. -/
lemma begin?_three {n : Nat} (h : 0x800 ≤ n) (h' : n < 0x10000) (hn : n < 0xD800 ∨ 0xDFFF < n) :
    ∃ p, begin? (0xE0 + n / 0x1000) = some p ∧ p.more = 2 ∧ p.value = n / 0x1000 ∧
      p.low ≤ 0x80 + n / 0x40 % 0x40 ∧ 0x80 + n / 0x40 % 0x40 ≤ p.high := by
  unfold begin?
  split_ifs with h₁ h₂ h₃ h₄
  · omega
  -- the ranges that are narrower than those of a byte in the middle
  · exact ⟨_, rfl, rfl, by simp; omega, by simp; omega, by simp; omega⟩
  · exact ⟨_, rfl, rfl, by simp; omega, by simp, by simp; omega⟩
  · exact ⟨_, rfl, rfl, by simp, by simp, by simp; omega⟩
  all_goals omega

/-- The first of four bytes admits the second one. -/
lemma begin?_four {n : Nat} (h : 0x10000 ≤ n) (h' : n < 0x110000) :
    ∃ p, begin? (0xF0 + n / 0x40000) = some p ∧ p.more = 3 ∧ p.value = n / 0x40000 ∧
      p.low ≤ 0x80 + n / 0x1000 % 0x40 ∧ 0x80 + n / 0x1000 % 0x40 ≤ p.high := by
  unfold begin?
  split_ifs with h₁ h₂ h₃ h₄ h₅ h₆ h₇
  · omega
  · omega
  · omega
  · omega
  · exact ⟨_, rfl, rfl, by simp; omega, by simp; omega, by simp; omega⟩
  · exact ⟨_, rfl, rfl, by simp; omega, by simp, by simp; omega⟩
  · exact ⟨_, rfl, rfl, by simp, by simp, by simp; omega⟩
  · omega

/-! ### Characters and texts -/

/-- The bytes of a character are read as this character, and leave nothing begun. -/
lemma decodeFrom_encodeChar (c : Char) (bs : List UInt8) :
    decodeFrom none (encodeChar c ++ bs) = c :: decodeFrom none bs := by
  have hvalid := toNat_valid c
  have hc : ∀ n, n = c.toNat → Char.ofNat n = c := by
    rintro n rfl
    exact Char.ofNat_toNat c
  simp only [encodeChar]
  generalize c.toNat = n at hvalid hc
  split_ifs with h₁ h₂ h₃
  · simp only [List.singleton_append, decodeFrom_ofNat_cons none (show n < 0x100 by omega), next,
      first, h₁, if_true, hc n rfl]
  · simp only [List.cons_append, List.nil_append]
    rw [decodeFrom_ofNat_cons _ (by omega), next_begin (begin?_two (by omega) h₂),
      decodeFrom_ofNat_cons _ (by omega), next_last rfl (by simp) (by simp; omega),
      hc _ (by simp; omega)]
    rfl
  · obtain ⟨p, hp, hmore, hvalue, hlow, hhigh⟩ := begin?_three (n := n) (by omega) h₃ (by omega)
    simp only [List.cons_append, List.nil_append]
    rw [decodeFrom_ofNat_cons _ (by omega), next_begin hp,
      decodeFrom_ofNat_cons _ (by omega), next_more (by omega) hlow hhigh,
      decodeFrom_ofNat_cons _ (by omega), next_last (by simp [hmore]) (by simp) (by simp; omega),
      hc _ (by simp [hvalue]; omega)]
    rfl
  · obtain ⟨p, hp, hmore, hvalue, hlow, hhigh⟩ := begin?_four (n := n) (by omega) (by omega)
    simp only [List.cons_append, List.nil_append]
    rw [decodeFrom_ofNat_cons _ (by omega), next_begin hp,
      decodeFrom_ofNat_cons _ (by omega), next_more (by omega) hlow hhigh,
      decodeFrom_ofNat_cons _ (by omega), next_more (by simp [hmore]) (by simp) (by simp; omega),
      decodeFrom_ofNat_cons _ (by omega), next_last (by simp [hmore]) (by simp) (by simp; omega),
      hc _ (by simp [hvalue]; omega)]
    rfl

/-- Decoding undoes encoding. -/
lemma decode_encode (cs : List Char) : decode (encode cs) = cs := by
  induction cs with
  | nil => rfl
  | cons c cs ih =>
    rw [encode, List.flatMap_cons, decode, decodeFrom_encodeChar]
    exact congrArg (c :: ·) ih

end CronHeatMap.Text.Utf8
