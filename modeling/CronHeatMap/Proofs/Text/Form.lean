import CronHeatMap.Text.Form
import CronHeatMap.Proofs.Text.Lines
import CronHeatMap.Proofs.Text.Utf8

/-!
# Reading forms that were written

Reading a form gives back the pairs that were written, whatever the names and values hold. Encoded
text consists of characters that stand for themselves, plus signs and percent signs, so that it is
never mistaken for a separator; and it is read byte by byte the way it was written.
-/

namespace CronHeatMap.Text.Form

/-! ### Characters -/

/-- The characters that stand for themselves are of one byte. -/
lemma toNat_lt_of_isKept {c : Char} (h : isKept c = true) : c.toNat < 0x80 := by
  simp only [isKept, Bool.or_eq_true, Bool.and_eq_true, decide_eq_true_eq, beq_iff_eq] at h
  rcases h with (((((⟨-, h⟩ | ⟨-, h⟩) | ⟨-, h⟩) | rfl) | rfl) | rfl) | rfl
  · exact Nat.lt_of_le_of_lt h (by decide)
  · exact Nat.lt_of_le_of_lt h (by decide)
  · exact Nat.lt_of_le_of_lt h (by decide)
  all_goals decide

/-- A character that is not kept differs from one that is. -/
lemma ne_of_isKept {c d : Char} (hc : isKept c = true) (hd : isKept d = false) : c ≠ d := by
  rintro rfl
  rw [hc] at hd
  contradiction

lemma isKept_hexDigit {d : Nat} (h : d < 16) : isKept (hexDigit d) = true := by
  revert d
  decide

lemma hexValue?_hexDigit {d : Nat} (h : d < 16) : hexValue? (hexDigit d) = some d := by
  revert d
  decide

/-! ### Bytes -/

/-- The two digits of a byte spell it. -/
lemma hexByte?_hexDigit (b : UInt8) :
    hexByte? (hexDigit (b.toNat / 16)) (hexDigit (b.toNat % 16)) = some b := by
  have hb : b.toNat < 256 := b.toNat_lt
  have hhigh : hexValue? (hexDigit (b.toNat / 16)) = some (b.toNat / 16) :=
    hexValue?_hexDigit (by omega)
  have hlow : hexValue? (hexDigit (b.toNat % 16)) = some (b.toNat % 16) :=
    hexValue?_hexDigit (by omega)
  calc hexByte? (hexDigit (b.toNat / 16)) (hexDigit (b.toNat % 16))
      = some (UInt8.ofNat (16 * (b.toNat / 16) + b.toNat % 16)) := by
        rw [hexByte?, hhigh, hlow]
        rfl
    _ = some b := by rw [Nat.div_add_mod, UInt8.ofNat_toNat]

lemma bytesOf_cons {c : Char} (hc : c ≠ '%') (cs : List Char) :
    bytesOf (c :: cs) = Utf8.encodeChar (if c = '+' then ' ' else c) ++ bytesOf cs := by
  rw [bytesOf]
  rintro _ _ _ rfl
  contradiction

/-- The code of a byte as a character is the byte. -/
lemma toNat_ofNat_byte (b : UInt8) : (Char.ofNat b.toNat).toNat = b.toNat := by
  have hb : b.toNat < 256 := b.toNat_lt
  have hvalid : b.toNat.isValidChar := Or.inl (by omega)
  rw [Char.ofNat, dif_pos hvalid]
  rfl

/-- A written byte is read as this byte. -/
lemma bytesOf_encodeByte_append (b : UInt8) (cs : List Char) :
    bytesOf (encodeByte b ++ cs) = b :: bytesOf cs := by
  have hcode := toNat_ofNat_byte b
  simp only [encodeByte]
  split_ifs with hspace hkept
  · have hb : b = 32 := by
      rw [hspace] at hcode
      exact UInt8.toNat_inj.1 hcode.symm
    rw [List.singleton_append, bytesOf_cons (by decide), hb]
    rfl
  · have hlt := toNat_lt_of_isKept hkept
    rw [List.singleton_append, bytesOf_cons (ne_of_isKept hkept (by decide)),
      if_neg (ne_of_isKept hkept (by decide))]
    rw [hcode] at hlt
    simp only [Utf8.encodeChar, hcode, hlt, if_true, UInt8.ofNat_toNat, List.singleton_append]
  · simp only [List.cons_append, List.nil_append, bytesOf, hexByte?_hexDigit]

lemma bytesOf_flatMap_encodeByte (bs : List UInt8) : bytesOf (bs.flatMap encodeByte) = bs := by
  induction bs with
  | nil => rfl
  | cons b bs ih => rw [List.flatMap_cons, bytesOf_encodeByte_append, ih]

/-! ### Names and values -/

/-- Reading a name or a value undoes writing it. -/
lemma decodeText_encodeText (cs : List Char) : decodeText (encodeText cs) = cs := by
  rw [decodeText, encodeText, bytesOf_flatMap_encodeByte, Utf8.decode_encode]

/-- What a written name or value consists of. -/
lemma mem_encodeText {c : Char} {cs : List Char} (h : c ∈ encodeText cs) :
    isKept c = true ∨ c = '+' ∨ c = '%' := by
  obtain ⟨b, -, hc⟩ := List.mem_flatMap.1 h
  have hb : b.toNat < 256 := b.toNat_lt
  simp only [encodeByte] at hc
  split_ifs at hc with hspace hkept
  · exact Or.inr (Or.inl (List.mem_singleton.1 hc))
  · rw [List.mem_singleton.1 hc]
    exact Or.inl hkept
  · simp only [List.mem_cons, List.not_mem_nil, or_false] at hc
    rcases hc with rfl | rfl | rfl
    · exact Or.inr (Or.inr rfl)
    · exact Or.inl (isKept_hexDigit (by omega))
    · exact Or.inl (isKept_hexDigit (by omega))

/-- A character that is neither kept nor a plus or percent sign never occurs in a written name or
value. -/
lemma ne_of_mem_encodeText {c d : Char} {cs : List Char} (h : c ∈ encodeText cs)
    (hd : isKept d = false) (hplus : d ≠ '+') (hpercent : d ≠ '%') : c ≠ d := by
  rcases mem_encodeText h with hc | rfl | rfl
  · exact ne_of_isKept hc hd
  · exact hplus.symm
  · exact hpercent.symm

/-! ### Pairs -/

/-- Reading a pair undoes writing it. -/
lemma decodePair_encodePair (pair : List Char × List Char) :
    decodePair (encodePair pair) = pair := by
  have hname : ∀ c ∈ encodeText pair.1, (c == '=') = false := fun c hc =>
    beq_false_of_ne (ne_of_mem_encodeText hc (by decide) (by decide) (by decide))
  rw [decodePair, encodePair, cutAt_append_cons hname (by decide)]
  simp only [decodeText_encodeText]

lemma ne_amp_of_mem_encodePair {c : Char} {pair : List Char × List Char}
    (h : c ∈ encodePair pair) : (c == '&') = false := by
  have htext : ∀ cs, c ∈ encodeText cs → c ≠ '&' := fun cs hc =>
    ne_of_mem_encodeText hc (by decide) (by decide) (by decide)
  apply beq_false_of_ne
  rcases List.mem_append.1 h with hc | hc
  · exact htext _ hc
  · rcases List.mem_cons.1 hc with rfl | hc
    · decide
    · exact htext _ hc

/-- Reading a form undoes writing it. -/
lemma decode_encode (pairs : List (List Char × List Char)) : decode (encode pairs) = pairs := by
  by_cases hne : pairs = []
  · subst hne
    rfl
  · have hpieces : pieces (· == '&') (encode pairs) = pairs.map encodePair := by
      refine pieces_intercalate (by decide) (by simpa using hne) fun p hp c hc => ?_
      obtain ⟨pair, -, rfl⟩ := List.mem_map.1 hp
      exact ne_amp_of_mem_encodePair hc
    have hfilter : (pairs.map encodePair).filter (!·.isEmpty) = pairs.map encodePair := by
      rw [List.filter_eq_self]
      intro p hp
      obtain ⟨pair, -, rfl⟩ := List.mem_map.1 hp
      simp [encodePair]
    rw [decode, hpieces, hfilter, List.map_map]
    calc pairs.map (decodePair ∘ encodePair)
        = pairs.map id := List.map_congr_left fun pair _ => decodePair_encodePair pair
      _ = pairs := List.map_id pairs

end CronHeatMap.Text.Form
