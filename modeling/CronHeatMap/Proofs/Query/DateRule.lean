import CronHeatMap.Query.DateRule
import CronHeatMap.Proofs.Calendar.Reading

/-!
# The date rule and the date that is meant

A date is looked at twice: the rule checks its form and its year before it is sent, and the axes are
labelled for the day that it spells. The rule passes the empty text, the word for today and the
spellings of a year in the window (`check_eq_none_iff`). Of these, the spelling of a day in the calendar is
read as this day, and all others mean the current day (`accepted_dates_are_read`).
-/

namespace CronHeatMap

namespace DateRule

open Date (IsSpelling)
open Text (digitValue? figures isBlank readDigits? trim trimStart)

variable {c : Char} {cs : List Char} {text : String} {year : Nat}

/-! ### The word for today -/

lemma exists_of_upper (h : 'A' ≤ c ∧ c ≤ 'Z') : ∃ n < 26, c = Char.ofNat ('A'.toNat + n) := by
  have hlow : 'A'.toNat ≤ c.toNat := h.1
  have hhigh : c.toNat ≤ 'Z'.toNat := h.2
  refine ⟨c.toNat - 'A'.toNat, Nat.sub_lt_left_of_lt_add hlow (Nat.lt_succ_of_le hhigh), ?_⟩
  rw [Nat.add_sub_cancel' hlow, Char.ofNat_toNat]

lemma isToday_iff : isToday text.toList = true ↔ text.toLower = Query.today := by
  have hmap : text.toLower = text.map Char.toLower := rfl
  rw [isToday, decide_eq_true_iff, hmap, ← String.toList_inj, String.toList_map]

/-- What holds of the letters of the word holds of their capitals too, if it holds of capitals. -/
lemma forall_of_isToday {P : Char → Prop} [DecidablePred P] (htoday : isToday cs = true)
    (hupper : ∀ n < 26, P (Char.ofNat ('A'.toNat + n)))
    (hword : Query.today.toList.all (fun c => P c) = true) : ∀ c ∈ cs, P c := by
  intro c hc
  by_cases h : 'A' ≤ c ∧ c ≤ 'Z'
  · obtain ⟨n, hn, rfl⟩ := exists_of_upper h
    exact hupper n hn
  · have hkept : c.toLower = c := dif_neg h
    have hmem : c.toLower ∈ Query.today.toList :=
      of_decide_eq_true htoday ▸ List.mem_map_of_mem hc
    rw [hkept] at hmem
    exact of_decide_eq_true (List.all_eq_true.1 hword c hmem)

/-- The word for today is not a date to be read. -/
lemma read?_trim_of_isToday (htoday : isToday cs = true) : Date.read? (trim cs) = none := by
  have hletters : ∀ c ∈ cs, isBlank c = false ∧ digitValue? c = none ∧ c ≠ '-' ∧ c ≠ '+' :=
    forall_of_isToday htoday (by decide) (by decide)
  rw [Text.trim_eq_self fun c hc => (hletters c hc).1]
  cases cs with
  | nil => rfl
  | cons c cs =>
    obtain ⟨hblank, hdigit, hminus, hplus⟩ := hletters c List.mem_cons_self
    have htrim : trimStart (c :: cs) = c :: cs := List.dropWhile_cons_of_neg (by simp [hblank])
    have hyear : Date.readYear? (c :: cs) = none := by
      rw [Date.readYear?, htrim]
      split
      · next hsign => exact absurd (List.cons.inj hsign).1 hminus
      · next hsign => exact absurd (List.cons.inj hsign).1 hplus
      · simp [Date.readNumber?, Date.takeDigits, hdigit, readDigits?]
    rw [Date.read?, hyear]
    rfl

/-! ### Spellings -/

lemma readDigits?_pair {c c' : Char} {n n' : Nat} (hc : readDigits? [c] = some n)
    (hc' : readDigits? [c'] = some n') : readDigits? [c, c'] = some (10 * n + n') := by
  simp_all [readDigits?, Text.extendNat?]

/-- The rule finds a year exactly in the spellings of days with this year. -/
lemma yearOf?_eq_some_iff :
    yearOf? cs = some year ↔ ∃ month day, IsSpelling cs year month day := by
  constructor
  · intro h
    unfold yearOf? at h
    split at h
    · next y₁ y₂ y₃ y₄ m₁ m₂ d₁ d₂ =>
      simp only [Option.bind_eq_bind, Option.bind_eq_some_iff] at h
      obtain ⟨a, ha, b, hb, c, hc, d, hd, hy⟩ := h
      obtain ⟨-, hyear, hy⟩ := Text.readDigits?_eq_some_iff.1 hy
      obtain ⟨-, hmonth, hm⟩ := Text.readDigits?_eq_some_iff.1 (readDigits?_pair ha hb)
      obtain ⟨-, hday, hd⟩ := Text.readDigits?_eq_some_iff.1 (readDigits?_pair hc hd)
      refine ⟨_, _, hyear, hmonth, hday, ?_⟩
      calc [y₁, y₂, y₃, y₄, '-', m₁, m₂, '-', d₁, d₂]
          = [y₁, y₂, y₃, y₄] ++ '-' :: ([m₁, m₂] ++ '-' :: [d₁, d₂]) := rfl
        _ = _ := by rw [hy, hm, hd]; rfl
    · cases h
  · rintro ⟨month, day, hyear, hmonth, hday, rfl⟩
    have hdigit : ∀ n, readDigits? [Text.digitChar (n % 10)] = some (n % 10) := by
      intro n
      have hlt : n % 10 < 10 := Nat.mod_lt n (by decide)
      simp [readDigits?, Text.extendNat?, Text.digitValue?_digitChar hlt]
    have hfour : readDigits? (figures 4 year) = some year :=
      Text.readDigits?_figures (by decide) hyear
    simpa [yearOf?, figures, hdigit] using hfour

/-! ### Accepted dates -/

/-- Nothing is wrong with the empty text, with the word for today, and with a year in the window. -/
lemma fault?_eq_none_iff (text : String) (thisYear : Int) :
    fault? text thisYear = none ↔
      text = "" ∨ text.toLower = Query.today ∨
        ∃ year, yearOf? text.toList = some year ∧
          earliestYear ≤ year ∧ (year : Int) ≤ thisYear + maxYearsAhead := by
  have hword : (text.toList.isEmpty = true ∨ isToday text.toList = true) ↔
      text = "" ∨ text.toLower = Query.today := by
    rw [List.isEmpty_iff, String.toList_eq_nil_iff, isToday_iff]
  rw [← or_assoc, ← hword, fault?]
  split_ifs with hnone
  · exact iff_of_true rfl (Or.inl hnone)
  rw [or_iff_right hnone]
  cases hyear : yearOf? text.toList with
  | none => simp
  | some year =>
    simp only [Option.some.injEq, exists_eq_left']
    split_ifs with hearly hlate
    · exact iff_of_false id fun hyears => absurd hyears.1 (Nat.not_le.2 hearly)
    · refine iff_of_false id fun hyears => ?_
      omega
    · exact iff_of_true rfl ⟨Nat.not_lt.1 hearly, by omega⟩

/-- The rule passes the empty text, the word for today and spellings with a year in the window. -/
lemma check_eq_none_iff (text : String) (thisYear : Int) :
    check text thisYear = none ↔
      text = "" ∨ text.toLower = Query.today ∨
        ∃ year month day, IsSpelling text.toList year month day ∧
          earliestYear ≤ year ∧ (year : Int) ≤ thisYear + maxYearsAhead := by
  simp only [check, Option.map_eq_none_iff, fault?_eq_none_iff, yearOf?_eq_some_iff,
    exists_and_right]

/-- The rule passes the empty text, the word for today in any case, and nothing else but four, two and
two digits with hyphens between them, with a year from 1970 to a hundred years from now. A date that it
passes is read as the day of the calendar that it spells, and as the current day if it spells none. -/
theorem accepted_dates_are_read (text : String) (thisYear : Int) (today : Date) :
    (check text thisYear = none ↔
      text = "" ∨ text.toLower = "today" ∨
        ∃ year month day, IsSpelling text.toList year month day ∧
          1970 ≤ year ∧ (year : Int) ≤ thisYear + 100) ∧
      (check text thisYear = none →
        (∀ d : Date, d.SpelledBy text → Date.ofText text today = d) ∧
          ((∀ d : Date, ¬ d.SpelledBy text) → Date.ofText text today = today)) := by
  refine ⟨check_eq_none_iff text thisYear, fun haccepted => ⟨?_, ?_⟩⟩
  · intro d hd
    exact Date.ofText_of_spelledBy hd today
  · intro hnone
    rcases (check_eq_none_iff text thisYear).1 haccepted with
      rfl | hword | ⟨year, month, day, hspelling, -⟩
    · rfl
    · rw [Date.ofText, read?_trim_of_isToday (isToday_iff.2 hword), Option.getD_none]
    · exact Date.ofText_of_forall_not_spelledBy hspelling hnone today

/-- The last day of February in a leap year, with the last year that is allowed. -/
theorem accepted_dates_are_read_leap_day :
    check "2096-02-29" 1996 = none ∧ check "2096-02-29" 1995 ≠ none ∧
      Date.ofText "2096-02-29" .unixEpoch = ⟨2096, 2, 29, by decide⟩ := by
  have hspelling : IsSpelling "2096-02-29".toList 2096 2 29 :=
    ⟨by decide, by decide, by decide, by decide⟩
  have haccepted : check "2096-02-29" 1996 = none :=
    (accepted_dates_are_read _ _ .unixEpoch).1.2
      (Or.inr (Or.inr ⟨2096, 2, 29, hspelling, by decide, by decide⟩))
  have hread := ((accepted_dates_are_read _ _ .unixEpoch).2 haccepted).1
    ⟨2096, 2, 29, by decide⟩ ⟨2096, rfl, hspelling⟩
  exact ⟨haccepted, by decide, hread⟩

end DateRule

end CronHeatMap
