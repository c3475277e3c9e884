import CronHeatMap.Calendar.Date
import CronHeatMap.Text.Blank

/-!
# Reading dates

How a date is read that may be written with some freedom: a year, a month and a day with hyphens
between them, with blanks before each number. A year may carry a sign, after which it has any number
of digits; without a sign it has at most four. Months and days have at most two digits.
-/

namespace CronHeatMap.Date

open Text (digitValue? readDigits? trim trimStart)

/-- The years that can be read lie between these two. -/
def firstYear : Int := -262143

/-- The last year that can be read. -/
def lastYear : Int := 262142

/-- Takes the digits at the front of a text, but at most `width` of them. -/
def takeDigits : Nat → List Char → List Char × List Char
  | 0, cs => ([], cs)
  | _, [] => ([], [])
  | width + 1, c :: cs =>
    if (digitValue? c).isSome then
      let (ds, rest) := takeDigits width cs
      (c :: ds, rest)
    else ([], c :: cs)

/-- Reads a number of at least one and at most `width` digits at the front of a text. -/
def readNumber? (width : Nat) (cs : List Char) : Option (Nat × List Char) :=
  let (ds, rest) := takeDigits width cs
  (readDigits? ds).map fun n => (n, rest)

/-- Reads a year at the front of a text. -/
def readYear? (cs : List Char) : Option (Int × List Char) :=
  match trimStart cs with
  | '-' :: rest => (readNumber? rest.length rest).map fun (n, rest) => (-(n : Int), rest)
  | '+' :: rest => (readNumber? rest.length rest).map fun (n, rest) => ((n : Int), rest)
  | rest => (readNumber? 4 rest).map fun (n, rest) => ((n : Int), rest)

/-- Reads a hyphen and then a number of one or two digits, which blanks may precede. -/
def readPart? : List Char → Option (Nat × List Char)
  | '-' :: rest => readNumber? 2 (trimStart rest)
  | _ => none

/-- Reads a date that takes up the whole text. -/
def read? (cs : List Char) : Option Date := do
  let (year, cs) ← readYear? cs
  let (month, cs) ← readPart? cs
  let (day, cs) ← readPart? cs
  guard (cs.isEmpty ∧ firstYear ≤ year ∧ year ≤ lastYear)
  ofCivil? year month day

/-- The date that a text spells, with blanks around it ignored; any other text means `today`. -/
def ofText (text : String) (today : Date) : Date := (read? (trim text.toList)).getD today

end CronHeatMap.Date
