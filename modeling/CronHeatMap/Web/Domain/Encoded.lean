/-!
# Encoded labels

A label that holds characters beyond ASCII may be written with letters, digits and hyphens. The part
after the last hyphen is a series of numbers, written with digits to the base of 36, which say where
the other characters are to be put in, in ascending order.
-/

namespace CronHeatMap.Web.Domain

/-- The value of a digit. -/
def digit? (c : Char) : Option Nat :=
  if 'a' ≤ c ∧ c ≤ 'z' then some (c.toNat - 'a'.toNat)
  else if '0' ≤ c ∧ c ≤ '9' then some (c.toNat - '0'.toNat + 26)
  else none

/-- Divides a distance until it is small. `steps` bounds the number of divisions. -/
def shrink : Nat → Nat → Nat → Nat × Nat
  | 0, delta, k => (delta, k)
  | steps + 1, delta, k => if 455 < delta then shrink steps (delta / 35) (k + 36) else (delta, k)

/-- The bias for the next number after one with the value `delta`. -/
def adapt (delta points : Nat) (first : Bool) : Nat :=
  let delta := if first then delta / 700 else delta / 2
  let (delta, k) := shrink 32 (delta + delta / points) 0
  k + 36 * delta / (delta + 38)

/-- The threshold of a digit. -/
def threshold (k bias : Nat) : Nat := if k ≤ bias then 1 else if bias + 26 ≤ k then 26 else k - bias

/-- The greatest value that may arise. -/
def greatest : Nat := UInt32.size - 1

/-- How far the decoding of a label has come. -/
structure Decoding where
  /-- The characters so far. -/
  text : List Char
  /-- How many they are. -/
  points : Nat
  /-- The number of the next character to be put in. -/
  char : Nat := 0x80
  /-- The place at which it is put in. -/
  place : Nat := 0
  bias : Nat := 72
  /-- The value of the current number so far. -/
  value : Nat := 0
  /-- The weight of the next digit. -/
  weight : Nat := 1
  /-- The position of the next digit. -/
  position : Nat := 36
  /-- No number has been completed. -/
  first : Bool := true

namespace Decoding

/-- Puts a character in when its number is complete. -/
def putIn? (d : Decoding) (value : Nat) : Option Decoding :=
  let points := d.points + 1
  let char := d.char + (d.place + value) / points
  let place := (d.place + value) % points
  if char.isValidChar then
    some { text := d.text.insertIdx place (Char.ofNat char), points, char, place := place + 1,
           bias := adapt value points d.first, first := false }
  else none

/-- Reads a digit. -/
def read? (d : Decoding) (digit : Nat) : Option Decoding :=
  let t := threshold d.position d.bias
  let value := d.value + digit * d.weight
  let weight := d.weight * (36 - t)
  if greatest < d.place + value then none
  else if digit < t then d.putIn? value
  else if greatest < weight then none
  else some { d with value, weight, position := d.position + 36 }

/-- No number has been begun. -/
def isComplete (d : Decoding) : Bool := d.position == 36

/-- Reads digits up to the end of a number. -/
def finish? (d : Decoding) : List Char → Option (List Char)
  | [] => if d.isComplete then some d.text else none
  | c :: cs =>
    match (digit? c).bind d.read? with
    | some d => d.finish? cs
    | none => none

end Decoding

/-- What stands before and after the last hyphen. Without a hyphen, or with one only at the very
front, all stands after it. -/
def splitLast (cs : List Char) : List Char × List Char :=
  let after := (cs.reverse.takeWhile (· != '-')).reverse
  let before := cs.take (cs.length - after.length - 1)
  if before.isEmpty then ([], cs) else (before, after)

/-- The longest text that is decoded. -/
def longestEncoded : Nat := 2000

/-- Decodes a label without the mark at its front. There must be a character to be put in. -/
def decode? (cs : List Char) : Option (List Char) :=
  let (kept, added) := splitLast cs
  if added.isEmpty ∨ longestEncoded < cs.length ∨ cs.any (0x80 ≤ ·.toNat) then none
  else Decoding.finish? { text := kept, points := kept.length } added

end CronHeatMap.Web.Domain
