import CronHeatMap.Console.Screen
import Mathlib.Tactic.Common

/-!
# What a screen shows

Strokes put characters into lines and columns, each in the colour that was chosen last before it. A
screen that leaves the usual colour behind does not affect what is written after it
(`Screen.glyphs_flatMap`), and a line is found by its number after the lines above it
(`Glyph.find?_lines`).
-/

namespace CronHeatMap

/-- A character on a screen. -/
structure Glyph where
  char : Char
  /-- The colour in which it appears, if this is not the usual one. -/
  ink : Option Ink := none
deriving Repr, DecidableEq

/-- The colour in which text appears after a stroke. -/
def Stroke.inkAfter (current : Option Ink) : Stroke → Option Ink
  | ink i => some i
  | reset => none
  | text _ => current

/-- The characters that a stroke writes. -/
def Stroke.glyphs (current : Option Ink) : Stroke → List Glyph
  | text s => s.toList.map fun char => { char, ink := current }
  | _ => []

namespace Screen

/-- The colour in which text appears after a screen. -/
def inkAfter (current : Option Ink) : Screen → Option Ink
  | [] => current
  | stroke :: strokes => inkAfter (stroke.inkAfter current) strokes

/-- The characters of a screen, line endings included. -/
def glyphs (current : Option Ink) : Screen → List Glyph
  | [] => []
  | stroke :: strokes => stroke.glyphs current ++ glyphs (stroke.inkAfter current) strokes

lemma inkAfter_append (current : Option Ink) (s t : Screen) :
    inkAfter current (s ++ t) = inkAfter (inkAfter current s) t := by
  induction s generalizing current with
  | nil => rfl
  | cons stroke s ih => exact ih _

lemma glyphs_append (current : Option Ink) (s t : Screen) :
    glyphs current (s ++ t) = glyphs current s ++ glyphs (inkAfter current s) t := by
  induction s generalizing current with
  | nil => rfl
  | cons stroke s ih => simp only [List.cons_append, glyphs, ih, inkAfter, List.append_assoc]

/-- A line of text leaves the usual colour behind. -/
@[simp] lemma inkAfter_line (current : Option Ink) (i : Ink) (text : String) :
    inkAfter current (i.line text) = none := rfl

@[simp] lemma glyphs_line (current : Option Ink) (i : Ink) (text : String) :
    glyphs current (i.line text) =
      text.toList.map (fun char => { char, ink := some i }) ++
        [{ char := '\n', ink := some i }] := by
  simp [Ink.line, Ink.write, glyphs, Stroke.glyphs, Stroke.inkAfter]

/-- The colour stays the usual one. -/
lemma inkAfter_flatMap {α : Type} {f : α → Screen} (hf : ∀ a, inkAfter none (f a) = none)
    (as : List α) : inkAfter none (as.flatMap f) = none := by
  induction as with
  | nil => rfl
  | cons a as ih => rw [List.flatMap_cons, inkAfter_append, hf, ih]

/-- Screens that leave the usual colour behind do not affect each other. -/
lemma glyphs_flatMap {α : Type} {f : α → Screen} (hf : ∀ a, inkAfter none (f a) = none)
    (as : List α) : glyphs none (as.flatMap f) = as.flatMap fun a => glyphs none (f a) := by
  induction as with
  | nil => rfl
  | cons a as ih => rw [List.flatMap_cons, List.flatMap_cons, glyphs_append, hf, ih]

/-- Characters of which each has a colour of its own. -/
lemma glyphs_flatMap_ink {α : Type} (current : Option Ink) (color : α → Ink) (char : α → Char)
    (as : List α) :
    glyphs current (as.flatMap fun a => [.ink (color a), .text (String.ofList [char a])]) =
      as.map fun a => { char := char a, ink := color a } := by
  induction as generalizing current with
  | nil => rfl
  | cons a as ih =>
    rw [List.flatMap_cons, List.map_cons, glyphs_append, ih]
    simp [glyphs, Stroke.glyphs, Stroke.inkAfter]

end Screen

/-! ### Lines and columns -/

namespace Glyph

/-- The character in a line and a column, both counted from 0. -/
def find? : List Glyph → Nat → Nat → Option Glyph
  | [], _, _ => none
  | g :: _, 0, 0 => if g.char = '\n' then none else some g
  | g :: gs, 0, column + 1 => if g.char = '\n' then none else find? gs 0 column
  | g :: gs, line + 1, column => if g.char = '\n' then find? gs line column
    else find? gs (line + 1) column

/-- The characters stand in one line. -/
def InLine (gs : List Glyph) : Prop := ∀ g ∈ gs, g.char ≠ '\n'

variable {gs : List Glyph}

/-- A line that has ended is passed over. -/
lemma find?_newline (hgs : InLine gs) {g : Glyph} (hg : g.char = '\n') (rest : List Glyph)
    (line column : Nat) :
    find? (gs ++ g :: rest) (line + 1) column = find? rest line column := by
  induction gs with
  | nil => rw [List.nil_append, find?, if_pos hg]
  | cons first gs ih =>
    rw [InLine, List.forall_mem_cons] at hgs
    rw [List.cons_append, find?, if_neg hgs.1]
    exact ih hgs.2

/-- In the first line, characters are found by their columns. -/
lemma find?_zero (hgs : InLine gs) {column : Nat} {g : Glyph} (hg : gs[column]? = some g)
    (rest : List Glyph) : find? (gs ++ rest) 0 column = some g := by
  induction gs generalizing column with
  | nil => simp at hg
  | cons first gs ih =>
    rw [InLine, List.forall_mem_cons] at hgs
    cases column with
    | zero =>
      rw [List.cons_append, find?, if_neg hgs.1]
      exact hg
    | succ column =>
      rw [List.cons_append, find?, if_neg hgs.1]
      exact ih hgs.2 hg

/-- Below lines that have ended stands the line with the next number. -/
lemma find?_lines {lines : List (List Glyph)} (hlines : ∀ gs ∈ lines, InLine gs) {newline : Glyph}
    (hnewline : newline.char = '\n') {line column : Nat} {gs : List Glyph}
    (hline : lines[line]? = some gs) {g : Glyph} (hg : gs[column]? = some g) (rest : List Glyph) :
    find? (lines.flatMap (· ++ [newline]) ++ rest) line column = some g := by
  induction lines generalizing line with
  | nil => simp at hline
  | cons first lines ih =>
    rw [List.forall_mem_cons] at hlines
    rw [List.flatMap_cons, List.append_assoc, List.append_assoc, List.singleton_append]
    cases line with
    | zero =>
      obtain rfl : first = gs := by simpa using hline
      exact find?_zero hlines.1 hg _
    | succ line =>
      rw [find?_newline hlines.1 hnewline]
      exact ih hlines.2 (by simpa using hline)

end Glyph

/-- The character that a screen shows in a line and a column, both counted from 0. -/
def Screen.glyphAt? (screen : Screen) (line column : Nat) : Option Glyph :=
  Glyph.find? (screen.glyphs none) line column

end CronHeatMap
