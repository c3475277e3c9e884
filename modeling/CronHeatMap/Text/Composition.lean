import CronHeatMap.Text.Composition.Tables

/-!
# Composed text

A letter with marks may be one character or several. Composing a text takes all characters apart,
puts the marks after each letter in the order of their classes, and puts together what can be put
together, so that texts that mean the same become equal.
-/

namespace CronHeatMap.Text.Composition

/-- The class of a character: zero unless it is a mark that may change places with others. -/
def classOf (c : Char) : Nat :=
  if c.toNat < 0x300 then 0
  else ((classes.find? fun (_, set) => set.contains c).map Prod.fst).getD 0

/-! ### Syllables of Hangul

A syllable has a leading consonant, a vowel, and perhaps a trailing consonant. Syllables are
numbered in the order of these parts. -/

namespace Hangul

/-- The number of the first syllable. -/
def firstSyllable : Nat := 0xac00

/-- The number of the first leading consonant. -/
def firstLead : Nat := 0x1100

/-- The number of the first vowel. -/
def firstVowel : Nat := 0x1161

/-- The number before the first trailing consonant. -/
def beforeTrail : Nat := 0x11a7

/-- How many leading consonants there are. -/
def leads : Nat := 19

/-- How many vowels there are. -/
def vowels : Nat := 21

/-- How many trailing consonants there are, counting that there is none. -/
def trails : Nat := 28

/-- The position of `n` among the `count` numbers from `first` on. -/
def position? (first count n : Nat) : Option Nat :=
  if first ≤ n ∧ n < first + count then some (n - first) else none

/-- The parts of a syllable. -/
def parts? (c : Char) : Option (List Char) :=
  (position? firstSyllable (leads * vowels * trails) c.toNat).map fun i =>
    let trail := i % trails
    [Char.ofNat (firstLead + i / trails / vowels), Char.ofNat (firstVowel + i / trails % vowels)] ++
      if trail = 0 then [] else [Char.ofNat (beforeTrail + trail)]

/-- Puts a leading consonant and a vowel together, or a syllable and its trailing consonant. -/
def join? (a b : Char) : Option Char :=
  match position? firstLead leads a.toNat, position? firstVowel vowels b.toNat with
  | some lead, some vowel => some (Char.ofNat (firstSyllable + (lead * vowels + vowel) * trails))
  | _, _ =>
    match position? firstSyllable (leads * vowels * trails) a.toNat,
        position? (beforeTrail + 1) (trails - 1) b.toNat with
    | some i, some trail =>
      if i % trails = 0 then some (Char.ofNat (a.toNat + trail + 1)) else none
    | _, _ => none

end Hangul

/-! ### Taking apart -/

/-- Takes a character apart. `depth` bounds how often its first part is taken apart. -/
def parts : Nat → Char → List Char
  | 0, c => [c]
  | depth + 1, c =>
    match composites.image? c with
    | some (d :: ds) => parts depth d ++ ds
    | some [] => []
    | none => ((replaced.image? c) <|> Hangul.parts? c).getD [c]

/-- How often the first part of a character can be taken apart. -/
def depth : Nat := 3

/-- Puts a mark in front of marks, behind those of lower classes. -/
def insertMark (c : Char) : List Char → List Char
  | [] => [c]
  | d :: ds =>
    if classOf d ≠ 0 ∧ classOf d < classOf c then d :: insertMark c ds else c :: d :: ds

/-- Puts the marks after each letter in order. -/
def ordered (cs : List Char) : List Char :=
  cs.foldr (fun c cs => if classOf c = 0 then c :: cs else insertMark c cs) []

/-- A text with all characters taken apart. -/
def decompose (cs : List Char) : List Char :=
  ordered (cs.flatMap fun c => if c.toNat < 0x80 then [c] else parts depth c)

/-! ### Putting together -/

/-- The pairs of characters that can be put together, with what they make. -/
def joints : List (Char × Char × Char) :=
  composites.toList.flatMap fun (first, images) =>
    (images.toList.zipIdx first).filterMap fun (image, n) =>
      match image with
      | [a, b] => some (a, b, Char.ofNat n)
      | _ => none

/-- What two characters make when they are put together. -/
def join? (a b : Char) : Option Char :=
  if b.toNat < 0x300 then none
  else Hangul.join? a b <|>
    (joints.find? fun (first, second, _) => first == a && second == b).map fun (_, _, c) => c

/-- Puts together what follows a letter, given the marks in between, latest first. A mark is not
reached past one of the same class or a higher one. -/
def composeFrom (letter : Char) (marks : List Char) : List Char → List Char
  | [] => letter :: marks.reverse
  | c :: cs =>
    let reached := marks.head?.all fun mark => classOf mark < classOf c
    match if reached then join? letter c else none with
    | some joined => composeFrom joined marks cs
    | none =>
      if classOf c = 0 then letter :: (marks.reverse ++ composeFrom c [] cs)
      else composeFrom letter (c :: marks) cs

/-- Puts together what can be put together. -/
def joined : List Char → List Char
  | [] => []
  | c :: cs => if classOf c = 0 then composeFrom c [] cs else c :: joined cs

/-- The composed form of a text. -/
def compose (cs : List Char) : List Char := joined (decompose cs)

end CronHeatMap.Text.Composition
