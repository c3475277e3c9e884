import CronHeatMap.Calendar.Reading
import CronHeatMap.Proofs.Text.Numeral

/-!
# Reading dates that are spelled

A date can be written with some freedom. The strictest way to write it is with four, two and two
digits, with hyphens between them. A text of this form is read as the day that it spells if the calendar
has this day (`ofText_of_spelledBy`), and means the current day otherwise
(`ofText_of_forall_not_spelledBy`).
-/

namespace CronHeatMap.Date

open Text (digitValue? digitChar figures readDigits? trim trimStart)

variable {cs : List Char} {text : String} {year month day : Nat}

/-- The characters are a year, a month and a day with four, two and two digits and hyphens between
them. -/
structure IsSpelling (cs : List Char) (year month day : Nat) : Prop where
  year_lt : year < 10 ^ 4
  month_lt : month < 10 ^ 2
  day_lt : day < 10 ^ 2
  eq : cs = figures 4 year ++ '-' :: (figures 2 month ++ '-' :: figures 2 day)

/-! ### Numbers -/

/-- As many digits as there are at the front are taken, if there is no limit before. -/
lemma takeDigits_append {ds : List Char} (hds : ∀ c ∈ ds, (digitValue? c).isSome = true)
    (rest : List Char) : takeDigits ds.length (ds ++ rest) = (ds, rest) := by
  induction ds with
  | nil => rfl
  | cons d ds ih =>
    rw [List.forall_mem_cons] at hds
    rw [List.cons_append, List.length_cons, takeDigits, if_pos hds.1, ih hds.2]

lemma readNumber?_figures {width n : Nat} (hwidth : 0 < width) (hn : n < 10 ^ width)
    (rest : List Char) : readNumber? width (figures width n ++ rest) = some (n, rest) := by
  have hds : ∀ c ∈ figures width n, (digitValue? c).isSome = true := by
    intro c hc
    obtain ⟨d, hd, rfl⟩ := Text.exists_of_mem_figures hc
    rw [Text.digitValue?_digitChar hd]
    rfl
  have htake := takeDigits_append hds rest
  rw [Text.length_figures] at htake
  simp only [readNumber?, htake, Text.readDigits?_figures hwidth hn, Option.map_some]

/-- A number does not begin with a blank or a sign. -/
lemma exists_figures_append_eq_cons {width : Nat} (hwidth : 0 < width) (n : Nat)
    (rest : List Char) :
    ∃ d < 10, ∃ cs, figures width n ++ rest = digitChar d :: cs := by
  have hne : figures width n ≠ [] := List.ne_nil_of_length_pos (by rwa [Text.length_figures])
  obtain ⟨c, cs, hcs⟩ := List.exists_cons_of_ne_nil hne
  obtain ⟨d, hd, rfl⟩ := Text.exists_of_mem_figures (hcs ▸ List.mem_cons_self)
  exact ⟨d, hd, cs ++ rest, by rw [hcs, List.cons_append]⟩

lemma trimStart_figures {width n : Nat} (hwidth : 0 < width) (rest : List Char) :
    trimStart (figures width n ++ rest) = figures width n ++ rest := by
  obtain ⟨d, hd, cs, hcs⟩ := exists_figures_append_eq_cons hwidth n rest
  rw [hcs]
  exact List.dropWhile_cons_of_neg (by simp [Text.isBlank_digitChar hd])

/-! ### Dates -/

lemma readYear?_figures (hyear : year < 10 ^ 4) (rest : List Char) :
    readYear? (figures 4 year ++ rest) = some ((year : Int), rest) := by
  have hnumber : readNumber? 4 (figures 4 year ++ rest) = some (year, rest) :=
    readNumber?_figures (by decide) hyear rest
  have htrim : trimStart (figures 4 year ++ rest) = figures 4 year ++ rest :=
    trimStart_figures (by decide) rest
  obtain ⟨d, hd, cs, hcs⟩ := exists_figures_append_eq_cons (show 0 < 4 by decide) year rest
  rw [readYear?, htrim]
  split
  · next hsign =>
    exact absurd (List.cons.inj (hcs.symm.trans hsign)).1 (Text.digitChar_ne hd (by decide))
  · next hsign =>
    exact absurd (List.cons.inj (hcs.symm.trans hsign)).1 (Text.digitChar_ne hd (by decide))
  · rw [hnumber, Option.map_some]

lemma readPart?_figures {n : Nat} (hn : n < 10 ^ 2) (rest : List Char) :
    readPart? ('-' :: (figures 2 n ++ rest)) = some (n, rest) := by
  rw [readPart?, trimStart_figures (by decide), readNumber?_figures (by decide) hn]

/-- A text that spells a day is read as this day, if the calendar has it. -/
lemma read?_of_isSpelling (h : IsSpelling cs year month day) :
    read? cs = ofCivil? year month day := by
  have hday : readPart? ('-' :: figures 2 day) = some (day, []) := by
    have hpart := readPart?_figures h.day_lt []
    rwa [List.append_nil] at hpart
  have hfirst : firstYear ≤ (year : Int) := by
    rw [firstYear]
    omega
  have hlast : (year : Int) ≤ lastYear := by
    have := h.year_lt
    rw [lastYear]
    omega
  rw [read?, h.eq, readYear?_figures h.year_lt]
  dsimp only [Option.bind_eq_bind, Option.bind_some]
  rw [readPart?_figures h.month_lt]
  dsimp only [Option.bind_some]
  rw [hday]
  dsimp only [Option.bind_some]
  rw [guard, if_pos ⟨rfl, hfirst, hlast⟩]
  rfl

/-- There are no blanks in a spelling. -/
lemma IsSpelling.trim_eq (h : IsSpelling cs year month day) : trim cs = cs := by
  apply Text.trim_eq_self
  intro c hc
  rw [h.eq, List.mem_append, List.mem_cons, List.mem_append, List.mem_cons] at hc
  rcases hc with hc | rfl | hc | rfl | hc
  · exact Text.isBlank_of_mem_figures hc
  · rfl
  · exact Text.isBlank_of_mem_figures hc
  · rfl
  · exact Text.isBlank_of_mem_figures hc

lemma ofText_of_isSpelling (h : IsSpelling text.toList year month day) (today : Date) :
    ofText text today = (ofCivil? year month day).getD today := by
  rw [ofText, h.trim_eq, read?_of_isSpelling h]

/-! ### Days of the calendar -/

/-- The text is the spelling of a day that the calendar has. -/
def SpelledBy (d : Date) (text : String) : Prop :=
  ∃ year : Nat, d.year = year ∧ IsSpelling text.toList year d.month d.day

lemma ofText_of_spelledBy {d : Date} (h : d.SpelledBy text) (today : Date) :
    ofText text today = d := by
  obtain ⟨year, hyear, hspelling⟩ := h
  rw [ofText_of_isSpelling hspelling, ← hyear, ofCivil?, dif_pos d.inCalendar, Option.getD_some]

/-- A spelling of a day that the calendar does not have means the current day. -/
lemma ofText_of_forall_not_spelledBy (h : IsSpelling text.toList year month day)
    (hnone : ∀ d : Date, ¬ d.SpelledBy text) (today : Date) : ofText text today = today := by
  have hmissing : ¬ Calendar.Exists year month day := fun hexists =>
    hnone ⟨year, month, day, hexists⟩ ⟨year, rfl, h⟩
  rw [ofText_of_isSpelling h, ofCivil?, dif_neg hmissing, Option.getD_none]

end CronHeatMap.Date
