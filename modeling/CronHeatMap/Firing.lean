import CronHeatMap.Text.Blank
import CronHeatMap.Text.Lines
import CronHeatMap.Text.Numeral

/-!
# Firings

A firing is one minute of the day together with the cron expressions that fire in it. Firings are
read from rows of five optional texts; a row that cannot be placed on the grid of 24 hours by 60
minutes has no firing.
-/

namespace CronHeatMap

/-- Hours of a day. -/
def hoursPerDay : Nat := 24

/-- Minutes of an hour. -/
def minutesPerHour : Nat := 60

/-- One minute of the day and what fires in it. -/
structure Firing where
  /-- The label of the minute, which tells firings apart. -/
  key : String
  hour : Nat
  minute : Nat
  /-- How many events fall into this minute. -/
  count : Nat
  /-- The expressions that fire, in the order reported. -/
  expressions : List String
deriving Repr, DecidableEq, Inhabited

/-- A number of events in words: one event, else some number of events. -/
def eventsLabel (count : Nat) : String :=
  Text.decimal count ++ " event" ++ (if count = 1 then "" else "s")

/-- How many events happen and when, without closing punctuation. -/
def Firing.headline (f : Firing) : String := eventsLabel f.count ++ " at " ++ f.key

/-- The place of a firing on the grid exists. -/
def Firing.OnGrid (f : Firing) : Prop := f.hour < hoursPerDay ∧ f.minute < minutesPerHour

instance (f : Firing) : Decidable f.OnGrid := inferInstanceAs (Decidable (_ ∧ _))

/-- A row of the table as it was read: a column that is missing or empty has no text. -/
structure Row where
  key : Option String := none
  hour : Option String := none
  minute : Option String := none
  count : Option String := none
  expressions : Option String := none
deriving Repr, DecidableEq, Inhabited

/-- The text of a column, if it holds something. -/
def present? (column : Option String) : Option String := column.filter (· ≠ "")

/-- The number in a column: blanks around it are ignored, and it has to stay below `bound`. -/
def number? (bound : Nat) (column : Option String) : Option Nat :=
  (present? column).bind fun text => Text.readBelow? bound (Text.trim text.toList)

/-- The expressions in a cell that holds one on each line. -/
def splitExpressions (cell : String) : List String :=
  (Text.fragments cell.toList).map String.ofList

/-- The number of values of the count column, which is a word of 32 bits. -/
def countBound : Nat := UInt32.size

/-- The firing that a row describes. There is none when a column is missing, a number is malformed
or out of range, nothing fires, or no expression is given. -/
def Row.firing? (row : Row) : Option Firing := do
  let key ← present? row.key
  let hour ← number? hoursPerDay row.hour
  let minute ← number? minutesPerHour row.minute
  let count ← number? countBound row.count
  let cell ← present? row.expressions
  let expressions := splitExpressions cell
  guard (count ≠ 0 ∧ expressions ≠ [])
  return { key, hour, minute, count, expressions }

/-- The row that spells a firing. -/
def Row.ofFiring (f : Firing) : Row where
  key := f.key
  hour := Text.decimal f.hour
  minute := Text.decimal f.minute
  count := Text.decimal f.count
  expressions := "\n".intercalate f.expressions

end CronHeatMap
