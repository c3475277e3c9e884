import CronHeatMap.Firing

/-!
# Most contention

The report on the busiest minutes: the highest counts, each with the first of the minutes that have
it.
-/

namespace CronHeatMap

/-- A line of the report: the minutes with one count. -/
structure ContentionLine where
  count : Nat
  /-- The first keys of these minutes, in ascending order. -/
  keys : List String
  /-- There are more minutes than `keys` holds. -/
  truncated : Bool
deriving Repr, DecidableEq, Inhabited

namespace Contention

/-- The most counts that are reported. -/
def maxLines : Nat := 5

/-- The most keys that are reported for a count. -/
def maxKeys : Nat := 4

/-- The stretches of neighbouring firings with equal counts. -/
def stretches (firings : List Firing) : List (List Firing) :=
  firings.splitBy fun f g => f.count == g.count

/-- The keys of some firings in ascending order. -/
def sortedKeys (firings : List Firing) : List String :=
  (firings.map Firing.key).mergeSort (· ≤ ·)

/-- The line for firings that have one count. -/
def line (count : Nat) (firings : List Firing) : ContentionLine where
  count := count
  keys := (sortedKeys firings).take maxKeys
  truncated := decide (maxKeys < firings.length)

/-- The report on firings that stand in descending order of their counts. -/
def summarize (firings : List Firing) : List ContentionLine :=
  ((stretches firings).take maxLines).filterMap fun stretch =>
    stretch.head?.map fun f => line f.count stretch

end Contention

/-- Stands for the keys that a line leaves out. -/
def ellipsis : String := "…"

/-- A line of the report in words. -/
def ContentionLine.text (l : ContentionLine) : String :=
  eventsLabel l.count ++ " at " ++ ", ".intercalate l.keys ++
    (if l.truncated then ", " ++ ellipsis else "")

end CronHeatMap
