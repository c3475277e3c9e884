import CronHeatMap.Text.Numeral

/-!
# Dates

Days of the proleptic Gregorian calendar, and their count from the first day of 1970. Years are
numbered astronomically: year 0 comes before year 1.
-/

namespace CronHeatMap

namespace Calendar

/-- Whether a year has a 29th of February. -/
def isLeapYear (year : Int) : Bool := year % 4 = 0 && (year % 100 != 0 || year % 400 = 0)

/-- The days of a month, and none for what is no month. -/
def daysInMonth (year : Int) : Nat → Nat
  | 1 | 3 | 5 | 7 | 8 | 10 | 12 => 31
  | 4 | 6 | 9 | 11 => 30
  | 2 => if isLeapYear year then 29 else 28
  | _ => 0

/-- The days of a year before a month begins. -/
def daysBeforeMonth (year : Int) : Nat → Nat
  | 0 => 0
  | month + 1 => daysBeforeMonth year month + daysInMonth year month

/-- The days from the first day of year 1 to the first day of a year. -/
def daysBeforeYear (year : Int) : Int :=
  let past := year - 1
  365 * past + past / 4 - past / 100 + past / 400

/-- The days from the first day of year 1 to the first day of 1970. -/
def epoch : Int := 719162

/-- The number of a day, where the first day of 1970 has number 0. A day past the end of its month
is counted into the next one. -/
def dayNumber (year : Int) (month : Nat) (day : Int) : Int :=
  daysBeforeYear year + daysBeforeMonth year month + (day - 1) - epoch

/-- The day of the week of a numbered day, from 0 for Sunday to 6 for Saturday. -/
def weekday (number : Int) : Nat := ((number + 4) % 7).toNat

/-- The day exists in the calendar. -/
def Exists (year : Int) (month day : Nat) : Prop := 1 ≤ day ∧ day ≤ daysInMonth year month

instance (year : Int) (month day : Nat) : Decidable (Exists year month day) :=
  inferInstanceAs (Decidable (_ ∧ _))

example : epoch = daysBeforeYear 1970 := by decide
example : dayNumber 1970 1 1 = 0 ∧ weekday 0 = 4 := by decide
example : dayNumber 2000 3 1 = 11017 := by decide
example : dayNumber 0 12 31 = -719163 := by decide

end Calendar

/-- A day of the calendar. -/
structure Date where
  year : Int
  month : Nat
  day : Nat
  inCalendar : Calendar.Exists year month day
deriving Repr, DecidableEq

namespace Date

/-- The date of a year, month and day, if the calendar has it. -/
def ofCivil? (year : Int) (month day : Nat) : Option Date :=
  if h : Calendar.Exists year month day then some ⟨year, month, day, h⟩ else none

/-- The first day of 1970. -/
def unixEpoch : Date := ⟨1970, 1, 1, by decide⟩

instance : Inhabited Date := ⟨unixEpoch⟩

/-- The number of a date, where the first day of 1970 has number 0. -/
def number (d : Date) : Int := Calendar.dayNumber d.year d.month d.day

/-- The seconds from the start of 1970 to the midnight with which a date begins, both in universal
time. -/
def midnight (d : Date) : Int := 86400 * d.number

/-- A year with four digits at least, and with its sign where it is outside 0 to 9999. -/
def yearText (year : Int) : List Char :=
  let magnitude := Text.padLeft '0' 4 (Text.digits year.natAbs)
  if year < 0 then '-' :: magnitude else if 9999 < year then '+' :: magnitude else magnitude

/-- A date as year, month and day with hyphens between them. -/
def text (d : Date) : String :=
  String.ofList (yearText d.year) ++ "-" ++ Text.twoDigits d.month ++ "-" ++ Text.twoDigits d.day

end Date

end CronHeatMap
