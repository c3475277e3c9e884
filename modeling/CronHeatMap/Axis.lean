import CronHeatMap.Calendar.Reading
import CronHeatMap.Firing
import CronHeatMap.Zone

/-!
# Axis labels

The grid is laid out in universal time. The label of a tick is what a clock of the chosen zone reads
when the tick's minutes (on the minute axis) or hours (on the hour axis) have passed since the
universal midnight of the reference date.
-/

namespace CronHeatMap

/-- The two axes of the grid. -/
inductive Axis where
  | minute
  | hour
deriving Repr, DecidableEq

namespace Axis

/-- The distance between two labelled minutes. -/
def minuteStep : Nat := 5

/-- The ticks that are labelled. -/
def ticks : Axis → List Nat
  | minute => (List.range (minutesPerHour / minuteStep)).map (minuteStep * ·)
  | hour => List.range hoursPerDay

/-- The seconds between two neighbouring positions. -/
def unit : Axis → Int
  | minute => 60
  | hour => 3600

/-- How many positions there are before the clock starts over. -/
def cycle : Axis → Int
  | minute => 60
  | hour => 24

/-- What a clock that shows `clock` seconds reads on an axis. -/
def reading (axis : Axis) (clock : Int) : Nat := (clock / axis.unit % axis.cycle).toNat

end Axis

/-- What the labels of both axes depend on. -/
structure Axes where
  reference : Date
  zone : Zone
deriving Repr, DecidableEq, Inhabited

/-- A labelled tick. -/
structure Tick where
  value : Nat
  label : String
deriving Repr, DecidableEq

namespace Axes

/-- The axes for the date typed into the form. A text that is no date means `today`. -/
def ofDateText (text : String) (today : Date) (zone : Zone) : Axes :=
  { reference := Date.ofText text today, zone }

/-- The number that labels a tick. -/
def reading (a : Axes) (axis : Axis) (tick : Nat) : Nat :=
  axis.reading (a.zone.clockAt (a.reference.midnight + axis.unit * tick))

/-- The label of a tick. -/
def label (a : Axes) (axis : Axis) (tick : Nat) : String := Text.twoDigits (a.reading axis tick)

/-- The labelled ticks of an axis. -/
def labels (a : Axes) (axis : Axis) : List Tick :=
  axis.ticks.map fun value => { value, label := a.label axis value }

end Axes

end CronHeatMap
