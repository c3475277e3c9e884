import CronHeatMap.Text.Form

/-!
# TOML numbers

The words that stand for numbers. Whole numbers have 63 bits and a sign; other numbers are rounded
to 53 binary digits, and must not be rounded up to infinity.
-/

namespace CronHeatMap.Toml

/-! ### Digits -/

/-- Drops the underscores between digits. One that does not stand between two digits spoils the
number. -/
def joined? (isDigit : Char → Bool) (cs : List Char) : Option (List Char) :=
  let groups := Text.pieces (· == '_') cs
  if groups.all fun g => !g.isEmpty && g.all isDigit then some groups.flatten else none

/-- A character is a digit to a base. -/
def isDigitOf (base : Nat) (c : Char) : Bool := (Text.Form.hexValue? c).any (· < base)

/-- Reads digits to a base. -/
def based? (base : Nat) (cs : List Char) : Option Nat := do
  let ds ← joined? (isDigitOf base) cs
  return ds.foldl (fun n c => base * n + (Text.Form.hexValue? c).getD 0) 0

/-- Reads decimal digits without a needless zero in front. -/
def decimal? (cs : List Char) : Option Nat :=
  match cs with
  | '0' :: _ :: _ => none
  | cs => based? 10 cs

/-! ### Whole numbers -/

/-- The numbers of 63 bits and a sign. -/
def inRange (n : Int) : Bool := Int64.minValue.toInt ≤ n && n ≤ Int64.maxValue.toInt

/-- Reads a whole number. -/
def integer? (cs : List Char) : Option Int := do
  let n ← match cs with
    | '0' :: 'x' :: cs => (based? 16 cs).map Int.ofNat
    | '0' :: 'o' :: cs => (based? 8 cs).map Int.ofNat
    | '0' :: 'b' :: cs => (based? 2 cs).map Int.ofNat
    | '+' :: cs => (decimal? cs).map Int.ofNat
    | '-' :: cs => (decimal? cs).map fun n => -(n : Int)
    | cs => (decimal? cs).map Int.ofNat
  if inRange n then some n else none

/-- A text without a sign at its front. -/
def dropSign : List Char → List Char
  | '+' :: cs => cs
  | '-' :: cs => cs
  | cs => cs

/-! ### Other numbers -/

/-- A whole number of powers of ten. -/
structure Scaled where
  digits : Nat
  exponent : Int

/-- The least number that is rounded to infinity: halfway from the greatest of 53 binary digits to
the number after it. -/
def roundedToInfinity : Nat := Nat.pow 2 1024 - Nat.pow 2 970

/-- The number is rounded to infinity. Its decimal places tell, unless it is close. -/
def Scaled.overflows (x : Scaled) : Bool :=
  let places := (Nat.toDigits 10 x.digits).length + x.exponent
  if x.digits = 0 ∨ places < 308 then false
  else if 310 < places then true
  else
    roundedToInfinity * Nat.pow 10 (-x.exponent).toNat ≤ x.digits * Nat.pow 10 x.exponent.toNat

/-- Reads a number that may have a fraction. -/
def fixed? (cs : List Char) : Option Scaled :=
  match Text.cutAt (· == '.') cs with
  | some (whole, part) => do
    let n ← decimal? whole
    let ds ← joined? (isDigitOf 10) part
    return { digits := n * Nat.pow 10 ds.length + (← based? 10 ds)
             exponent := -(ds.length : Int) }
  | none => (decimal? cs).map fun digits => { digits, exponent := 0 }

/-- Reads an exponent. -/
def exponent? (cs : List Char) : Option Int := do
  let n ← based? 10 (dropSign cs)
  return if cs.head? = some '-' then -n else n

/-- Reads a number with a fraction, an exponent or both. -/
def real? (cs : List Char) : Option Scaled :=
  match Text.cutAt (fun c => c == 'e' || c == 'E') cs with
  | some (mantissa, e) => do
    let x ← fixed? mantissa
    return { x with exponent := x.exponent + (← exponent? e) }
  | none => if cs.contains '.' then fixed? cs else none

/-- The text is a number with a fraction, an exponent or both, or one that is no real number. Only
at the lower end are numbers rounded to infinity. -/
def isFloat (cs : List Char) : Bool :=
  let unsigned := dropSign cs
  String.ofList unsigned ∈ ["inf", "nan"] ||
    (real? unsigned).any fun x => cs.head? == some '-' || !x.overflows

end CronHeatMap.Toml
