import CronHeatMap.Text.Lines
import CronHeatMap.Text.Utf8

/-!
# Form encoding

Pairs of names and values as one line of ASCII, the way forms are submitted: pairs are joined by
ampersands, and a name and its value by an equals sign. A space is written as a plus sign; letters,
digits and a few marks stand for themselves; any other byte of the UTF-8 form of the text is written
as a percent sign and two hexadecimal digits.
-/

namespace CronHeatMap.Text.Form

/-! ### Writing -/

/-- The hexadecimal digit with value `d`, for `d < 16`. -/
def hexDigit (d : Nat) : Char := Char.ofNat (if d < 10 then '0'.toNat + d else 'A'.toNat + (d - 10))

/-- The characters that stand for themselves. -/
def isKept (c : Char) : Bool :=
  ('0' ≤ c && c ≤ '9') || ('A' ≤ c && c ≤ 'Z') || ('a' ≤ c && c ≤ 'z') ||
    c == '*' || c == '-' || c == '.' || c == '_'

/-- Writes a byte. -/
def encodeByte (b : UInt8) : List Char :=
  let c := Char.ofNat b.toNat
  if c = ' ' then ['+']
  else if isKept c then [c]
  else ['%', hexDigit (b.toNat / 16), hexDigit (b.toNat % 16)]

/-- Writes a name or a value. -/
def encodeText (cs : List Char) : List Char := (Utf8.encode cs).flatMap encodeByte

/-- Writes a name and its value. -/
def encodePair (pair : List Char × List Char) : List Char :=
  encodeText pair.1 ++ '=' :: encodeText pair.2

/-- Writes pairs. -/
def encode (pairs : List (List Char × List Char)) : List Char :=
  ['&'].intercalate (pairs.map encodePair)

/-! ### Reading -/

/-- The value of a hexadecimal digit, in either case. -/
def hexValue? (c : Char) : Option Nat :=
  if '0' ≤ c ∧ c ≤ '9' then some (c.toNat - '0'.toNat)
  else if 'A' ≤ c ∧ c ≤ 'F' then some (c.toNat - 'A'.toNat + 10)
  else if 'a' ≤ c ∧ c ≤ 'f' then some (c.toNat - 'a'.toNat + 10)
  else none

/-- The byte that two hexadecimal digits spell. -/
def hexByte? (a b : Char) : Option UInt8 := do
  return UInt8.ofNat (16 * (← hexValue? a) + (← hexValue? b))

/-- The bytes that an encoded name or value stands for. A percent sign without two hexadecimal
digits after it stands for itself. -/
def bytesOf : List Char → List UInt8
  | [] => []
  | '%' :: a :: b :: cs =>
    match hexByte? a b with
    | some byte => byte :: bytesOf cs
    | none => Utf8.encodeChar '%' ++ bytesOf (a :: b :: cs)
  | c :: cs => Utf8.encodeChar (if c = '+' then ' ' else c) ++ bytesOf cs

/-- Reads a name or a value. -/
def decodeText (cs : List Char) : List Char := Utf8.decode (bytesOf cs)

/-- Reads a name and its value, which is empty if there is no equals sign. -/
def decodePair (cs : List Char) : List Char × List Char :=
  match cutAt (· == '=') cs with
  | some (name, value) => (decodeText name, decodeText value)
  | none => (decodeText cs, [])

/-- Reads pairs. Nothing between two ampersands is no pair. -/
def decode (cs : List Char) : List (List Char × List Char) :=
  ((pieces (· == '&') cs).filter (!·.isEmpty)).map decodePair

end CronHeatMap.Text.Form
