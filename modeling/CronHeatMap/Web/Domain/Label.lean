import CronHeatMap.Text.Blank
import CronHeatMap.Text.Composition
import CronHeatMap.Text.Direction
import CronHeatMap.Text.Joining
import CronHeatMap.Web.Domain.Encoded
import CronHeatMap.Web.Domain.Image

/-!
# Labels of domain names

The parts of a domain name between its dots. A label may be encoded, and then holds what it decodes
to. A label must not begin with a mark, must hold invisible joiners only where they change how
letters look, and in a name that runs from the right, must run in one direction from end to end.
-/

namespace CronHeatMap.Web.Domain

open Text (Direction)

/-- What encoded labels begin with. -/
def encodedMark : List Char := ['x', 'n', '-', '-']

/-- A text is in the common form of names: composed, and each character stands for itself. -/
def isPlain (cs : List Char) : Bool :=
  cs.all (fun c => (image? c).isNone && !forbidden.contains c) && Text.Composition.compose cs == cs

/-- The characters that a label holds. -/
def decodeLabel? (label : List Char) : Option (List Char) :=
  if encodedMark.isPrefixOf label then (decode? (label.drop encodedMark.length)).filter isPlain
  else some label

/-! ### Joiners -/

/-- The invisible character that keeps letters apart. -/
def nonJoiner : Char := '\u200c'

/-- The invisible character that brings letters together. -/
def joiner : Char := '\u200d'

/-- The character drops the vowel of the letter before it. -/
def isVirama (c : Char) : Bool := Text.Composition.classOf c == 9

/-- The next character that joining letters do not pass over satisfies `p`. -/
def meets (p : Char → Bool) (cs : List Char) : Bool :=
  (cs.find? (!Text.Joining.isTransparent ·)).any p

/-- Joiners stand only where they have an effect: after a virama, or to keep letters apart that
would be joined. The characters before the text are given, latest first. -/
def joinersFit (before : List Char) : List Char → Bool
  | [] => true
  | c :: cs =>
    let afterVirama := before.head?.any isVirama
    let fits :=
      if c = joiner then afterVirama
      else if c = nonJoiner then
        afterVirama ||
          (meets Text.Joining.joinsNext before && meets Text.Joining.joinsPrevious cs)
      else true
    fits && joinersFit (c :: before) cs

/-! ### Directions -/

/-- The directions of a label agree: from the first character on, which has a direction, to the
last, marks at the end aside. Digits may end a label that runs from either side, but only one kind
of them may occur in one that runs from the right. -/
def directionsAgree (ds : List Direction) : Bool :=
  let last : Option Direction := (Text.dropEndWhile (· == .mark) ds).getLast?
  match ds.head? with
  | some .leftToRight =>
    ds.all (fun d => d != .rightToLeft && d != .arabicDigit) &&
      last.any fun d => d == .leftToRight || d == .digit
  | some .rightToLeft =>
    ds.all (· != .leftToRight) && !(ds.contains .digit && ds.contains .arabicDigit) &&
      last.any fun d => d == .rightToLeft || d == .digit || d == .arabicDigit
  | _ => false

/-- A character of the label runs from the right. -/
def runsFromRight (label : List Char) : Bool :=
  label.any fun c =>
    0x80 ≤ c.toNat && (Direction.ofChar c == .rightToLeft || Direction.ofChar c == .arabicDigit)

/-! ### Labels -/

/-- The longest label that can be encoded. -/
def longestLabel : Nat := 1000

/-- What a decoded label holds may stand in a name. -/
def isLabel (label : List Char) : Bool :=
  label.all (·.toNat < 0x80) ||
    (!label.head?.any Text.isMark && joinersFit [] label && label.length ≤ longestLabel)

end CronHeatMap.Web.Domain
