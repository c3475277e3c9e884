import CronHeatMap.Color.Scheme

/-!
# The continuous ramp

A colour for each share `t` between 0 and 1: a uniform cubic B-spline along the colours of Reds, in
each channel, with its control points continued in a straight line beyond both ends. Shares outside
the interval get the colour of the nearer end.

The formula is written once for any kind of number with the four operations, so that it can be run
on floating-point numbers and read on exact rationals.
-/

namespace CronHeatMap.Ramp

/-- Numbers that the ramp can be computed with. -/
class Scalar (α : Type) extends Add α, Sub α, Mul α, Div α where
  /-- A whole number as a scalar. -/
  ofNat : Nat → α
  /-- Whether one number is less than another. -/
  less : α → α → Bool
  /-- The whole part of a number that is not negative. -/
  floor : α → Nat
  /-- The byte nearest to a number, where a half goes away from zero. -/
  nearestByte : α → UInt8

instance : Scalar Float where
  ofNat := Float.ofNat
  less a b := a < b
  floor x := x.floor.toUInt64.toNat
  nearestByte x := x.round.toUInt8

instance : Scalar Rat where
  ofNat n := (n : Rat)
  less a b := a < b
  floor x := x.floor.toNat
  nearestByte x := UInt8.ofNat (min 255 (x + 1 / 2).floor.toNat)

variable {α : Type} [Scalar α]

open Scalar (ofNat less floor)

/-- One stretch of the spline at `u` between 0 and 1, weighed by four control points in a row. -/
def stretch (v0 v1 v2 v3 u : α) : α :=
  let u2 := u * u
  let u3 := u2 * u
  ((ofNat 1 - ofNat 3 * u + ofNat 3 * u2 - u3) * v0
    + (ofNat 4 - ofNat 6 * u2 + ofNat 3 * u3) * v1
    + (ofNat 1 + ofNat 3 * u + ofNat 3 * u2 - ofNat 3 * u3) * v2
    + u3 * v3) / ofNat 6

/-- The control point at an index. -/
def point (values : List Nat) (i : Nat) : α := ofNat (values.getD i 0)

/-- The spline along `values` in its stretch number `i`, at the share `t` of the whole. -/
def splineIn (values : List Nat) (i : Nat) (t : α) : α :=
  let n := values.length - 1
  let v1 : α := point values i
  let v2 : α := point values (i + 1)
  let v0 : α := if 0 < i then point values (i - 1) else ofNat 2 * v1 - v2
  let v3 : α := if i + 1 < n then point values (i + 2) else ofNat 2 * v2 - v1
  stretch v0 v1 v2 v3 ((t - ofNat i / ofNat n) * ofNat n)

/-- The spline along `values` at the share `t`. What is not above 0, or not a number, is taken as
0, and what is not below 1 is taken as 1. -/
def spline (values : List Nat) (t : α) : α :=
  let n := values.length - 1
  if less (ofNat 0) t then
    if less t (ofNat 1) then splineIn values (floor (t * ofNat n)) t
    else splineIn values (n - 1) (ofNat 1)
  else splineIn values 0 (ofNat 0)

/-- One channel of the ramp. -/
def channel (pick : Rgb → UInt8) (t : α) : UInt8 :=
  Scalar.nearestByte (spline (Scheme.reds.map fun c => (pick c).toNat) t)

/-- The colour of the ramp at a share. -/
def color (t : α) : Rgb := ⟨channel Rgb.red t, channel Rgb.green t, channel Rgb.blue t⟩

end CronHeatMap.Ramp
