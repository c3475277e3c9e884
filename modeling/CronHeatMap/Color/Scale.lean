import CronHeatMap.Color.Ramp
import CronHeatMap.Firing

/-!
# Colour scales

A scale gives each count of events its fill. Few distinct counts are told apart best by discrete
colours, one for each; discrete palettes end at nine classes, so more counts than that share a
continuous ramp.
-/

namespace CronHeatMap

/-- How counts become fills. -/
inductive Scale where
  /-- Each count of the domain has the colour at the same place of the palette. -/
  | ordinal (domain : List Nat) (palette : List Rgb)
  /-- The counts between two ends are spread along the ramp. -/
  | sequential (low high : Nat)
deriving Repr, DecidableEq

namespace Scale

/-- The fewest colours of an ordinal scale. -/
def minClasses : Nat := 3

/-- From this many classes on, a scale is sequential. -/
def sequentialFrom : Nat := 10

/-- Puts a number in its place among ascending numbers, unless it is there already. -/
def insertAscending (n : Nat) : List Nat → List Nat
  | [] => [n]
  | m :: ms =>
    if n < m then n :: m :: ms
    else if n = m then m :: ms
    else m :: insertAscending n ms

/-- The distinct numbers of a list, in ascending order. -/
def distinct (ns : List Nat) : List Nat := ns.foldr insertAscending []

/-- The ends of a sequential scale for the highest and the lowest count. A missing lowest count is
1, and a missing highest count is one more than the lowest. -/
def sequentialEnds (highest lowest : Option Nat) : Nat × Nat :=
  let low := lowest.getD 1
  (low, highest.getD (1 + low))

/-- The scale for a collection of counts. -/
def ofCounts (counts : List Nat) : Scale :=
  let domain := distinct counts
  let classes := max domain.length minClasses
  if sequentialFrom ≤ classes then
    let (low, high) := sequentialEnds domain.getLast? domain.head?
    .sequential low high
  else .ordinal domain (Scheme.oranges classes)

/-- The scale for the counts of some firings. -/
def select (firings : List Firing) : Scale := ofCounts (firings.map Firing.count)

/-- How far a count is along a sequential scale. A scale with equal ends has all counts in its
middle. -/
def share {α : Type} [Ramp.Scalar α] (low high count : Nat) : α :=
  let num (n : Nat) : α := Ramp.Scalar.ofNat n
  if low = high then num 1 / num 2 else (num count - num low) / (num high - num low)

/-- The fill of a count, computed with scalars of type `α`. A count that an ordinal scale does not
know takes the class after the last one, and classes beyond the palette start over. -/
def colorIn (α : Type) [Ramp.Scalar α] : Scale → Nat → Rgb
  | .ordinal domain palette, count => palette.getD (domain.idxOf count % palette.length) default
  | .sequential low high, count => Ramp.color (share low high count : α)

/-- The fill of a count. -/
def color : Scale → Nat → Rgb := colorIn Float

/-- The two kinds of scales. -/
inductive Kind where
  | ordinal
  | sequential
deriving Repr, DecidableEq

/-- The kind of a scale. -/
def kind : Scale → Kind
  | .ordinal .. => .ordinal
  | .sequential .. => .sequential

/-- The kind of a scale in words. -/
def Kind.name : Kind → String
  | .ordinal => "Ordinal"
  | .sequential => "Sequential"

end Scale

end CronHeatMap
