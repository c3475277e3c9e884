/-!
# UTF-8

Characters as bytes. Decoding never fails: where the bytes are not well formed, each longest stretch
that begins like a character is replaced by one replacement character.
-/

namespace CronHeatMap.Text.Utf8

/-- The bytes of a character. -/
def encodeChar (c : Char) : List UInt8 :=
  let n := c.toNat
  let follow (bits : Nat) : UInt8 := UInt8.ofNat (0x80 + bits % 0x40)
  if n < 0x80 then [UInt8.ofNat n]
  else if n < 0x800 then [UInt8.ofNat (0xC0 + n / 0x40), follow n]
  else if n < 0x10000 then [UInt8.ofNat (0xE0 + n / 0x1000), follow (n / 0x40), follow n]
  else [UInt8.ofNat (0xF0 + n / 0x40000), follow (n / 0x1000), follow (n / 0x40), follow n]

/-- The bytes of a text. -/
def encode (cs : List Char) : List UInt8 := cs.flatMap encodeChar

/-- Stands for bytes that encode no character. -/
def replacement : Char := '\ufffd'

/-- A character that has begun. -/
structure Pending where
  /-- How many bytes are still to come. -/
  more : Nat
  /-- The least value that the next byte may have. -/
  low : Nat := 0x80
  /-- The greatest value that the next byte may have. -/
  high : Nat := 0xBF
  /-- The value of the bytes so far. -/
  value : Nat
deriving Repr, DecidableEq

/-- How a character of several bytes begins. The range of the second byte leaves out characters that
fewer bytes encode, surrogates, and what lies beyond the last character. -/
def begin? (b : Nat) : Option Pending :=
  if 0xC2 ≤ b ∧ b ≤ 0xDF then some { more := 1, value := b - 0xC0 }
  else if b = 0xE0 then some { more := 2, low := 0xA0, value := 0 }
  else if b = 0xED then some { more := 2, high := 0x9F, value := 0xD }
  else if 0xE1 ≤ b ∧ b ≤ 0xEF then some { more := 2, value := b - 0xE0 }
  else if b = 0xF0 then some { more := 3, low := 0x90, value := 0 }
  else if b = 0xF4 then some { more := 3, high := 0x8F, value := 4 }
  else if 0xF1 ≤ b ∧ b ≤ 0xF3 then some { more := 3, value := b - 0xF0 }
  else none

/-- Reads a byte where no character has begun: the characters it completes, and the one it
begins. -/
def first (b : Nat) : List Char × Option Pending :=
  if b < 0x80 then ([Char.ofNat b], none)
  else match begin? b with
    | some p => ([], some p)
    | none => ([replacement], none)

/-- Reads a byte. -/
def next : Option Pending → Nat → List Char × Option Pending
  | none, b => first b
  | some p, b =>
    if p.low ≤ b ∧ b ≤ p.high then
      let value := p.value * 64 + (b - 0x80)
      if p.more ≤ 1 then ([Char.ofNat value], none)
      else ([], some { more := p.more - 1, value })
    else
      let (cs, p) := first b
      (replacement :: cs, p)

/-- Decodes bytes after the beginning of a character. -/
def decodeFrom : Option Pending → List UInt8 → List Char
  | none, [] => []
  | some _, [] => [replacement]
  | p, b :: bs =>
    let (cs, p) := next p b.toNat
    cs ++ decodeFrom p bs

/-- Decodes bytes. -/
def decode (bs : List UInt8) : List Char := decodeFrom none bs

end CronHeatMap.Text.Utf8
