import CronHeatMap.Firing

/-!
# The grid

Cells stand in columns, one for each minute of an hour, and in rows, one for each hour of the day
with hour 0 on top. Both are bands that divide an extent evenly and leave a share of each band's
step empty.
-/

namespace CronHeatMap

/-- Evenly spaced bands. -/
structure Bands where
  /-- How many bands there are. -/
  count : Nat
  /-- The distance between the starts of neighbouring bands. -/
  step : Float
  /-- Where the first band starts. -/
  start : Float
  /-- The share of a step that stays empty. -/
  padding : Float

namespace Bands

/-- Divides `extent` into `count` bands. The padding also surrounds the bands as a whole, which are
centred. A step is never wider than the extent. -/
def ofExtent (count : Nat) (extent padding : Float) : Bands :=
  let n := Float.ofNat count
  let steps := n - padding + padding * 2
  let step := extent / (if 1 < steps then steps else 1)
  { count, step, start := (extent - step * (n - padding)) * 0.5, padding }

/-- Where a band starts, if there is such a band. -/
def position? (b : Bands) (i : Nat) : Option Float :=
  if i < b.count then some (b.start + b.step * Float.ofNat i) else none

/-- How wide each band is. -/
def width (b : Bands) : Float := b.step * (1 - b.padding)

/-- A position is defined for the bands there are and no others. -/
theorem position?_isSome {b : Bands} {i : Nat} : (b.position? i).isSome ↔ i < b.count := by
  unfold position?
  split <;> simp_all

end Bands

namespace Grid

/-- The side of the square that is set aside for a cell. -/
def cellSize : Float := 18

/-- The share of a cell's square that stays empty. -/
def padding : Float := 0.05

/-- The bands that divide a side of the grid into `count` cells. -/
def side (count : Nat) : Bands := Bands.ofExtent count (cellSize * Float.ofNat count) padding

/-- One column for each minute. -/
def columns : Bands := side minutesPerHour

/-- One row for each hour. -/
def rows : Bands := side hoursPerDay

end Grid

/-- The place of a cell on the grid. -/
structure Seat where
  hour : Nat
  minute : Nat
deriving Repr, DecidableEq, Inhabited

/-- The place that belongs to the time of a firing. -/
def Firing.seat (f : Firing) : Seat := { hour := f.hour, minute := f.minute }

/-- How far a place is from the left side; a place outside the grid is put at its edge. -/
def Seat.x (s : Seat) : Float := (Grid.columns.position? s.minute).getD 0

/-- How far a place is from the top; a place outside the grid is put at its edge. -/
def Seat.y (s : Seat) : Float := (Grid.rows.position? s.hour).getD 0

end CronHeatMap
