import CronHeatMap.Calendar.Date

/-!
# Clock rules

How the history of a zone is described: in eras, each with a standard offset and either a fixed
amount of daylight saving or rules that change the amount at certain moments of certain years.
-/

namespace CronHeatMap.Zone

/-- The clock that a time of day is read from. -/
inductive Clock where
  /-- The clock on the wall, daylight saving included. -/
  | wall
  /-- The clock without daylight saving. -/
  | standard
  /-- The clock of universal time. -/
  | universal
deriving Repr, DecidableEq

/-- A day of a month that may depend on the day of the week. -/
inductive DayRule where
  | on (day : Nat)
  | last (weekday : Nat)
  | onOrAfter (weekday day : Nat)
  | onOrBefore (weekday day : Nat)
deriving Repr, DecidableEq

/-- The number of the day that a rule names in a month. -/
def DayRule.number (rule : DayRule) (year : Int) (month : Nat) : Int :=
  let ofDay (day : Nat) : Int := Calendar.dayNumber year month day
  /- The last day with a weekday that is not after a given day. -/
  let backTo (weekday : Nat) (number : Int) : Int :=
    number - ((Calendar.weekday number + 7 - weekday) % 7 : Nat)
  match rule with
  | .on day => ofDay day
  | .last weekday => backTo weekday (ofDay (Calendar.daysInMonth year month))
  | .onOrAfter weekday day => backTo weekday (ofDay day + 6)
  | .onOrBefore weekday day => backTo weekday (ofDay day)

/-- A moment that recurs every year. -/
structure Moment where
  month : Nat := 1
  day : DayRule := .on 1
  /-- The time of day in seconds; it may be negative or exceed a day. -/
  second : Int := 0
  clock : Clock := .wall
deriving Repr, DecidableEq

/-- The instant of a moment in a year, under a standard offset and an amount of daylight saving. -/
def Moment.instant (m : Moment) (year standard saving : Int) : Int :=
  let ahead := match m.clock with
    | .wall => standard + saving
    | .standard => standard
    | .universal => 0
  86400 * m.day.number year m.month + m.second - ahead

/-- From a moment on, in each of a range of years, daylight saving has a certain amount. -/
structure Rule where
  firstYear : Int
  lastYear : Int
  moment : Moment
  saving : Int
deriving Repr, DecidableEq

/-- How daylight saving is observed in an era. -/
inductive Saving where
  /-- By the same amount all the time. -/
  | fixed (seconds : Int)
  /-- By the rules of some name. -/
  | ruled (name : String)
deriving Repr, DecidableEq

/-- A stretch of the history of a zone. The last era of a zone has no ending. -/
structure Era where
  standard : Int
  saving : Saving
  ending : Option (Int × Moment)
deriving Repr, DecidableEq

/-! ### Reading descriptions

A rule is written as its name, the first and the last year, and then month, day, time of day and
saving; an era as its standard offset, its saving and the parts of its ending, of which the later
ones may be missing. -/

/-- The words of a line, which blanks separate. -/
def words (line : String) : List String := (line.splitOn " ").filter (· ≠ "")

/-- The months by the first letters of their names. -/
def monthNames : List String :=
  ["Jan", "Feb", "Mar", "Apr", "May", "Jun", "Jul", "Aug", "Sep", "Oct", "Nov", "Dec"]

/-- The days of the week by the first letters of their names. -/
def weekdayNames : List String := ["Sun", "Mon", "Tue", "Wed", "Thu", "Fri", "Sat"]

/-- The place of a word in a list. -/
def placeIn? (names : List String) (word : String) : Option Nat :=
  names.findIdx? (· = word)

/-- Reads a month by name. -/
def month? (word : String) : Option Nat := (placeIn? monthNames word).map (· + 1)

/-- Reads a number. -/
def nat? (word : List Char) : Option Nat := Text.readDigits? word

/-- Reads the day of a month. -/
def dayRule? (word : String) : Option DayRule :=
  match word.toList with
  | 'l' :: 'a' :: 's' :: 't' :: name =>
    (placeIn? weekdayNames (String.ofList name)).map .last
  | a :: b :: c :: '>' :: '=' :: day => do
    return .onOrAfter (← placeIn? weekdayNames (String.ofList [a, b, c])) (← nat? day)
  | a :: b :: c :: '<' :: '=' :: day => do
    return .onOrBefore (← placeIn? weekdayNames (String.ofList [a, b, c])) (← nat? day)
  | day => (nat? day).map .on

/-- Reads an amount of time in hours, minutes and seconds with colons between them. -/
def seconds? (word : List Char) : Option Int :=
  let magnitude? (cs : List Char) : Option Int := do
    let parts ← ((String.ofList cs).splitOn ":").mapM fun part => nat? part.toList
    match parts with
    | [h] => return 3600 * h
    | [h, m] => return 3600 * h + 60 * m
    | [h, m, s] => return 3600 * h + 60 * m + s
    | _ => none
  match word with
  | '-' :: cs => (magnitude? cs).map (-·)
  | cs => magnitude? cs

/-- Reads a time of day, which may end in a letter for the clock. -/
def timeOfDay? (word : String) : Option (Int × Clock) :=
  let cs := word.toList
  match cs.getLast? with
  | some 's' => (seconds? cs.dropLast).map (·, .standard)
  | some 'u' => (seconds? cs.dropLast).map (·, .universal)
  | _ => (seconds? cs).map (·, .wall)

/-- Reads a moment, of which the later parts may be missing. -/
def moment? : List String → Option Moment
  | [] => some {}
  | [month] => do return { month := ← month? month }
  | [month, day] => do return { month := ← month? month, day := ← dayRule? day }
  | [month, day, time] => do
    let (second, clock) ← timeOfDay? time
    return { month := ← month? month, day := ← dayRule? day, second, clock }
  | _ => none

/-- The last year for which rules are followed. -/
def horizon : Int := 2099

/-- Reads a rule and its name. -/
def Rule.ofLine? (line : String) : Option (String × Rule) :=
  match words line with
  | [name, first, last, month, day, time, saving] => do
    let firstYear ← nat? first.toList
    let lastYear ← if last = "max" then some horizon else (nat? last.toList).map Int.ofNat
    let moment ← moment? [month, day, time]
    let saving ← seconds? saving.toList
    return (name, { firstYear, lastYear, moment, saving })
  | _ => none

/-- Reads an era. -/
def Era.ofLine? (line : String) : Option Era :=
  match words line with
  | standard :: saving :: ending => do
    let standard ← seconds? standard.toList
    let saving :=
      if saving = "-" then .fixed 0
      else match seconds? saving.toList with
        | some amount => .fixed amount
        | none => .ruled saving
    match ending with
    | [] => return { standard, saving, ending := none }
    | year :: rest => do
      return { standard, saving, ending := some (← nat? year.toList, ← moment? rest) }
  | _ => none

end CronHeatMap.Zone
