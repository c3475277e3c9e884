import CronHeatMap.Query
import CronHeatMap.Query.FieldError
import CronHeatMap.Text.Numeral

/-!
# The date rule

Which dates are passed on to the service: none, the word for today in any case, or a year, month and
day of four, two and two digits, where the year lies in a window. Whether the calendar has such a
day is not checked here.
-/

namespace CronHeatMap

/-- Why a date is refused. -/
inductive DateFault where
  /-- The text has not the form of a date. -/
  | malformed
  /-- The year is before the first one allowed. -/
  | tooEarly (year : Nat)
  /-- The year is this many years after the current one. -/
  | tooLate (ahead : Int)
deriving Repr, DecidableEq

namespace DateRule

/-- The first year allowed. -/
def earliestYear : Nat := 1970

/-- How far a year may lie after the current one. -/
def maxYearsAhead : Nat := 100

/-- The text is the word for today, in any case. Only letters of ASCII are brought to lower case: no
lower case of another character has a letter of the word. -/
def isToday (cs : List Char) : Bool := cs.map Char.toLower = Query.today.toList

/-- The year of a text that consists of four digits, two and two, with hyphens between them. -/
def yearOf? : List Char → Option Nat
  | [y₁, y₂, y₃, y₄, '-', m₁, m₂, '-', d₁, d₂] => do
    let _ ← Text.readDigits? [m₁]
    let _ ← Text.readDigits? [m₂]
    let _ ← Text.readDigits? [d₁]
    let _ ← Text.readDigits? [d₂]
    Text.readDigits? [y₁, y₂, y₃, y₄]
  | _ => none

/-- What is wrong with a date in a certain year, if anything is. -/
def fault? (text : String) (thisYear : Int) : Option DateFault :=
  let cs := text.toList
  if cs.isEmpty ∨ isToday cs then none
  else match yearOf? cs with
    | none => some .malformed
    | some year =>
      if year < earliestYear then some (.tooEarly year)
      else if maxYearsAhead < (year : Int) - thisYear then some (.tooLate (year - thisYear))
      else none

/-- A whole number in decimal digits, with its sign if it is negative. -/
def signed (n : Int) : String := (if n < 0 then "-" else "") ++ Text.decimal n.natAbs

/-- Why a date is refused, in words. -/
def message : DateFault → String
  | .malformed => "Expected \"today\" or ISO 8601 date: YYYY-MM-DD."
  | .tooEarly year =>
    "Must be " ++ Text.decimal earliestYear ++ " or later, was " ++ Text.decimal year ++ "."
  | .tooLate ahead =>
    "Must not be later than " ++ Text.decimal maxYearsAhead ++ " years of this year, was " ++
      signed ahead ++ "."

/-- Checks a date in a certain year. -/
def check (text : String) (thisYear : Int) : Option FieldError :=
  (fault? text thisYear).map fun fault =>
    { field := .date, value := text, message := message fault }

end DateRule

end CronHeatMap
