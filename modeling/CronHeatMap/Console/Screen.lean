import CronHeatMap.Color
import CronHeatMap.Text.Numeral

/-!
# Screens

What is written to a terminal: stretches of text, and changes of the colour in which text appears.
-/

namespace CronHeatMap

/-- A colour of the terminal. -/
inductive Ink where
  /-- A colour of the terminal's own palette, by number. -/
  | palette (n : Nat)
  | rgb (color : Rgb)
deriving Repr, DecidableEq

namespace Ink

/-- The colour of the prompt. -/
def prompt : Ink := palette 10

/-- The colour of the axes. -/
def axis : Ink := palette 14

/-- The colour of the report on the busiest minutes. -/
def summary : Ink := palette 11

/-- The colour of errors. -/
def error : Ink := palette 9

/-- The colour of what matters less. -/
def dim : Ink := palette 8

/-- The colour of headings. -/
def header : Ink := palette 13

end Ink

/-- A part of what is written to a terminal. -/
inductive Stroke where
  /-- Text from here on has a colour. -/
  | ink (i : Ink)
  /-- Text from here on has the usual colour. -/
  | reset
  | text (s : String)
deriving Repr, DecidableEq

/-- What is written to a terminal. -/
abbrev Screen := List Stroke

/-- Text in a colour. -/
def Ink.write (i : Ink) (text : String) : Screen := [.ink i, .text text, .reset]

/-- A line of text in a colour. -/
def Ink.line (i : Ink) (text : String) : Screen := i.write (text ++ "\n")

/-- A control sequence that changes the colour. -/
def Stroke.sequence (parameters : String) : String := "\x1b[" ++ parameters ++ "m"

/-- The parameters that select a colour. -/
def Ink.parameters : Ink → String
  | palette n => "38;5;" ++ Text.decimal n
  | rgb color =>
    ";".intercalate (["38", "2"] ++
      [color.red, color.green, color.blue].map fun part => Text.decimal part.toNat)

/-- A stroke as it is sent to a terminal. Without colours, a change of the colour has no
parameters. -/
def Stroke.render (colors : Bool) : Stroke → String
  | ink i => sequence (if colors then i.parameters else "")
  | reset => sequence "0"
  | text s => s

/-- A screen as it is sent to a terminal. -/
def Screen.text (colors : Bool) (screen : Screen) : String :=
  String.join (screen.map (Stroke.render colors))

end CronHeatMap
