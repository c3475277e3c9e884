/-!
# Numerals

Unsigned decimal numbers in text: how they are read (an optional plus sign, then ASCII digits) and
how they are written.
-/

namespace CronHeatMap.Text

/-- The value of an ASCII digit. -/
def digitValue? (c : Char) : Option Nat :=
  if '0' ≤ c ∧ c ≤ '9' then some (c.toNat - '0'.toNat) else none

/-- Continues a number with the digits that follow; anything but a digit spoils it. -/
def extendNat? (n : Nat) : List Char → Option Nat
  | [] => some n
  | c :: cs => (digitValue? c).bind fun d => extendNat? (10 * n + d) cs

/-- Reads one or more ASCII digits. -/
def readDigits? : List Char → Option Nat
  | [] => none
  | c :: cs => extendNat? 0 (c :: cs)

/-- Reads an unsigned number, which may carry a plus sign. -/
def readNat? : List Char → Option Nat
  | '+' :: cs => readDigits? cs
  | cs => readDigits? cs

/-- Reads an unsigned number that is less than `bound`. -/
def readBelow? (bound : Nat) (cs : List Char) : Option Nat :=
  (readNat? cs).filter (· < bound)

/-- The digit with value `d`, for `d < 10`. -/
def digitChar (d : Nat) : Char := Char.ofNat ('0'.toNat + d)

/-- A number in decimal digits, without leading zeros. -/
def digits (n : Nat) : List Char :=
  if n < 10 then [digitChar n] else digits (n / 10) ++ [digitChar (n % 10)]

/-- A number in decimal digits, as a string. -/
def decimal (n : Nat) : String := String.ofList (digits n)

/-- Fills a text up to `width` characters with `fill` at its front. -/
def padLeft (fill : Char) (width : Nat) (cs : List Char) : List Char :=
  List.replicate (width - cs.length) fill ++ cs

/-- Fills a text up to `width` characters with `fill` at its end. -/
def padRight (fill : Char) (width : Nat) (cs : List Char) : List Char :=
  cs ++ List.replicate (width - cs.length) fill

/-- A number with at least two digits. -/
def twoDigits (n : Nat) : String := String.ofList (padLeft '0' 2 (digits n))

end CronHeatMap.Text
