import CronHeatMap.Text.Form

/-!
# Tables of characters

Properties of characters as tables. A table lists stretches of consecutive characters in ascending
order, each by the number of its first character, and is searched by halving. Tables are written as
lines of words, in which numbers are hexadecimal.
-/

namespace CronHeatMap.Text

/-- Stretches of consecutive characters, by the number of the first one, in ascending order. -/
abbrev CharTable (α : Type) := Array (Nat × α)

namespace CharTable

variable {α : Type}

/-- The last stretch that begins at or before `n`, among those from `low` up to `high`. -/
def search? (table : CharTable α) (n low high : Nat) : Option (Nat × α) :=
  if low + 1 < high then
    let mid := (low + high) / 2
    if table[mid]?.any (·.1 ≤ n) then search? table n mid high else search? table n low mid
  else table[low]?.filter (·.1 ≤ n)
termination_by high - low

/-- The last stretch that begins at or before a character, and how far it is from there. -/
def find? (table : CharTable α) (c : Char) : Option (Nat × α) :=
  (table.search? c.toNat 0 table.size).map fun (first, value) => (c.toNat - first, value)

end CharTable

/-! ### Words -/

/-- The number that hexadecimal digits spell. -/
def hexNat (cs : List Char) : Nat := cs.foldl (fun n c => 16 * n + (Form.hexValue? c).getD 0) 0

/-- The words on lines. -/
def wordsOf (lines : List String) : List (List Char) :=
  lines.flatMap fun line => pieces (· == ' ') line.toList

/-- What stands before and after a mark, or the whole twice. -/
def bounds (mark : Char) (word : List Char) : List Char × List Char :=
  (cutAt (· == mark) word).getD (word, word)

/-! ### Sets -/

/-- A set of characters: how many characters each stretch holds. -/
abbrev CharSet := CharTable Nat

namespace CharSet

/-- Reads a set: a word is a character, or the first and the last one of a stretch with a hyphen
between them. -/
def ofLines (lines : List String) : CharSet :=
  ((wordsOf lines).map fun word =>
    let (first, last) := bounds '-' word
    (hexNat first, hexNat last + 1 - hexNat first)).toArray

/-- The set holds a character. -/
def contains (set : CharSet) (c : Char) : Bool :=
  (CharTable.find? set c).any fun (offset, size) => offset < size

end CharSet

/-! ### Images -/

/-- The texts that consecutive characters stand for. -/
abbrev ImageTable := CharTable (Array (List Char))

namespace ImageTable

/-- Reads a table: a word is a character, an equals sign, and what it and the characters after it
stand for, with commas between the texts and plus signs between the characters of a text. -/
def ofLines (lines : List String) : ImageTable :=
  ((wordsOf lines).map fun word =>
    let (first, images) := bounds '=' word
    let image (cs : List Char) : List Char :=
      (pieces (· == '+') cs).map fun number => Char.ofNat (hexNat number)
    (hexNat first, ((pieces (· == ',') images).map image).toArray)).toArray

/-- What a character stands for, if the table has it. -/
def image? (table : ImageTable) (c : Char) : Option (List Char) :=
  (CharTable.find? table c).bind fun (offset, images) => images[offset]?

end ImageTable

end CronHeatMap.Text
