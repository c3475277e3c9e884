/-!
# Colours

Colours as three bytes, and how they are written in hexadecimal.
-/

namespace CronHeatMap

/-- A colour by its shares of red, green and blue. -/
structure Rgb where
  red : UInt8
  green : UInt8
  blue : UInt8
deriving Repr, DecidableEq, Inhabited

/-- The colour whose bytes, from red to blue, are the digits of `v` to the base 256. -/
def Rgb.ofNat (v : Nat) : Rgb := ⟨(v / 65536).toUInt8, (v / 256).toUInt8, v.toUInt8⟩

/-- A hexadecimal digit in lower case, for `d < 16`. -/
def hexDigit (d : Nat) : Char := if d < 10 then Char.ofNat (48 + d) else Char.ofNat (87 + d)

/-- The two hexadecimal digits of a byte. -/
def hexByte (b : UInt8) : List Char := [hexDigit (b.toNat / 16), hexDigit (b.toNat % 16)]

/-- A colour in hexadecimal, after a number sign. -/
def Rgb.hex (c : Rgb) : String :=
  String.ofList ('#' :: (hexByte c.red ++ hexByte c.green ++ hexByte c.blue))

end CronHeatMap
