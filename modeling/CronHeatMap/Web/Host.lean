import CronHeatMap.Text.Numeral
import CronHeatMap.Web.Domain

/-!
# Hosts

Which texts name a host: a domain name, four numbers or fewer with dots between them, or groups of
hexadecimal digits in brackets.
-/

namespace CronHeatMap.Web.Host

/-! ### Numbers with dots between them -/

/-- The value of digits to a base. -/
def valueOf (base : Nat) (digits : List Nat) : Nat := digits.foldl (fun n d => base * n + d) 0

/-- Reads digits to a base, none of which means zero. -/
def number? (base : Nat) (cs : List Char) : Option Nat := do
  let digits ← cs.mapM Text.Form.hexValue?
  guard (digits.all (· < base))
  return valueOf base digits

/-- Reads a part of a numeric address: decimal, octal after a zero, hexadecimal after `0x`. -/
def part? : List Char → Option Nat
  | [] => none
  | '0' :: 'x' :: cs => number? 16 cs
  | '0' :: 'X' :: cs => number? 16 cs
  | '0' :: c :: cs => number? 8 (c :: cs)
  | cs => number? 10 cs

/-- The labels of a name without the empty one after a dot at its end. -/
def partsOf (labels : List (List Char)) : List (List Char) :=
  if labels.getLast? = some [] then labels.dropLast else labels

/-- The last part of a name is a number, so that the whole is meant as a numeric address. -/
def isNumeric (parts : List (List Char)) : Bool :=
  match parts.getLast? with
  | none => false
  | some last => (!last.isEmpty && last.all Char.isDigit) || (part? last).isSome

/-- The numbers are an address: each part but the last is a byte, and the last fills the rest. -/
def isAddress (parts : List (List Char)) : Bool :=
  parts.length ≤ 4 &&
    match parts.mapM part? with
    | none => false
    | some numbers =>
      numbers.dropLast.all (· < 256) &&
        numbers.getLast?.any (· < Nat.pow 256 (5 - numbers.length))

/-! ### Groups in brackets -/

/-- Reads a byte in decimal digits without needless zeros. -/
def isByte (cs : List Char) : Bool :=
  (cs = ['0'] || cs.head? != some '0') && (Text.readDigits? cs).any (· < 256)

/-- Four bytes with dots between them. -/
def isDotted (cs : List Char) : Bool :=
  let parts := Text.pieces (· == '.') cs
  parts.length == 4 && parts.all isByte

/-- Takes at most `n` hexadecimal digits from the front of a text. -/
def takeHex : Nat → List Char → List Char × List Char
  | n + 1, c :: cs =>
    if (Text.Form.hexValue? c).isSome then
      let (ds, rest) := takeHex n cs
      (c :: ds, rest)
    else ([], c :: cs)
  | _, cs => ([], cs)

/-- The text holds `left` groups, or fewer if two colons have stood or stand for the missing ones.
Four bytes may stand for the last two groups. -/
def isGroups : Nat → Bool → List Char → Bool
  | left, shortened, [] => shortened || left == 0
  | 0, _, _ :: _ => false
  | left + 1, shortened, ':' :: cs => !shortened && isGroups left true cs
  | left + 1, shortened, c :: cs =>
    match takeHex 4 (c :: cs) with
    | ([], _) => false
    | (_, []) => isGroups left shortened []
    | (_, ':' :: more) => !more.isEmpty && isGroups left shortened more
    | (_, '.' :: _) => 1 ≤ left && (shortened || left == 1) && isDotted (c :: cs)
    | _ => false

/-- The text in brackets is an address of eight groups. -/
def isBracketed : List Char → Bool
  | ':' :: ':' :: cs => isGroups 7 true cs
  | ':' :: _ => false
  | cs => isGroups 8 false cs

/-- Reads the text after an opening bracket. -/
def closesBracket (cs : List Char) : Bool := cs.getLast? == some ']' && isBracketed cs.dropLast

/-! ### Hosts -/

/-- The text names a host in an address with a known scheme. -/
def isValid : List Char → Bool
  | '[' :: cs => closesBracket cs
  | cs => (Domain.ofText? cs).any fun labels =>
    let parts := partsOf labels
    !isNumeric parts || isAddress parts

/-- The text names a host in an address with a scheme that is not known. -/
def isOpaque : List Char → Bool
  | '[' :: cs => closesBracket cs
  | cs => cs.all fun c => !("\x00\t\n\r #/:<>?@[\\]^|".toList.contains c)

end CronHeatMap.Web.Host
