/-!
# Lines

Cutting a text at separators. `pieces` keeps every piece, the empty ones too, so that a text with
`n` separators has `n + 1` pieces; `lines` reads a text as lines that end in a line feed, with or
without a carriage return before it.
-/

namespace CronHeatMap.Text

/-- The pieces between the characters that satisfy `isSep`. -/
def pieces (isSep : Char → Bool) : List Char → List (List Char)
  | [] => [[]]
  | c :: cs =>
    if isSep c then [] :: pieces isSep cs
    else match pieces isSep cs with
      | [] => [[c]]
      | p :: ps => (c :: p) :: ps

theorem pieces_ne_nil (isSep : Char → Bool) (cs : List Char) : pieces isSep cs ≠ [] := by
  cases cs with
  | nil => simp [pieces]
  | cons c cs =>
    unfold pieces
    split
    · simp
    · split <;> simp

/-- Drops one carriage return at the end of a line. -/
def dropReturn (line : List Char) : List Char :=
  if line.getLast? = some '\r' then line.dropLast else line

/-- Turns the pieces around line feeds into lines: a piece that a line feed ended loses a carriage
return, and the last piece is a line only if it holds something. -/
def closeLines : List (List Char) → List (List Char)
  | [] => []
  | [last] => if last.isEmpty then [] else [last]
  | line :: more => dropReturn line :: closeLines more

/-- The lines of a text. A line ends at a line feed, and a carriage return right before the line
feed belongs to the ending; the last line needs no ending. -/
def lines (cs : List Char) : List (List Char) := closeLines (pieces (· == '\n') cs)

/-- Either character of a line ending. -/
def isBreak (c : Char) : Bool := c == '\n' || c == '\r'

/-- The fragments between line feeds and carriage returns that hold something. -/
def fragments (cs : List Char) : List (List Char) :=
  (pieces isBreak cs).filter (!·.isEmpty)

/-- What stands before and after the first character that satisfies `p`, if there is one. -/
def cutAt (p : Char → Bool) : List Char → Option (List Char × List Char)
  | [] => none
  | c :: cs => if p c then some ([], cs) else (cutAt p cs).map fun (a, b) => (c :: a, b)

end CronHeatMap.Text
