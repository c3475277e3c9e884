import CronHeatMap.Console.Screen
import CronHeatMap.Session

/-!
# Pictures

How a session looks on a terminal. The form is shown in edit mode; otherwise the grid, in which each
cell is one character, the report on the busiest minutes, the detail panel and the listing.
-/

namespace CronHeatMap.Picture

/-! ### The grid -/

/-- The element that is painted at a place: the last one there in document order. -/
def paintedAt? (s : Scene) (seat : Seat) : Option Element :=
  s.elements.reverse.find? (·.firing.seat = seat)

/-- The character of a place without a cell. -/
def emptyGlyph : Char := '·'

/-- The character of a cell without marks. -/
def cellGlyph : Char := '■'

/-- The character of a highlighted cell. -/
def highlightedGlyph : Char := '█'

/-- The character of the cell on which the detail panel is held. -/
def lockedGlyph : Char := '◆'

/-- The character of a place. A lock shows in preference to a highlight. -/
def glyph : Option Element → Char
  | none => emptyGlyph
  | some e =>
    if e.marks.locked then lockedGlyph
    else if e.marks.highlighted then highlightedGlyph
    else cellGlyph

/-- The colour of a place. -/
def ink (e : Option Element) : Ink := (e.map fun e => Ink.rgb e.fill).getD .dim

/-- How wide the labels of the hours are, with the gap after them. -/
def gutter : Nat := 4

/-- Writes a text over a line, from a column on; what does not fit is cut off. -/
def overwrite (line : List Char) (column : Nat) (text : List Char) : List Char :=
  (line.take column ++ text ++ line.drop (column + text.length)).take line.length

/-- The labels of the minutes over their columns. -/
def minuteLine (ticks : List Tick) : String :=
  let blank := List.replicate (minutesPerHour + 1) ' '
  let line := ticks.foldl (fun line tick => overwrite line tick.value tick.label.toList) blank
  String.ofList (List.replicate gutter ' ' ++ Text.trimEnd line)

/-- The cells of an hour. -/
def hourCells (s : Scene) (hour : Nat) : Screen :=
  (List.range minutesPerHour).flatMap fun minute =>
    let e := paintedAt? s { hour, minute }
    [.ink (ink e), .text (String.ofList [glyph e])]

/-- The line of an hour. -/
def hourLine (s : Scene) (tick : Tick) : Screen :=
  [.ink .axis, .text (String.ofList (Text.padRight ' ' gutter tick.label.toList))] ++
    hourCells s tick.value ++ [.reset, .text "\n"]

/-- The grid with its axes. -/
def grid (h : HeatMap) : Screen :=
  Ink.axis.line (minuteLine (h.axes.labels .minute)) ++
    (h.axes.labels .hour).flatMap (hourLine h.scene)

/-! ### What stands below the grid -/

/-- The report on the busiest minutes. -/
def contention (h : HeatMap) : Screen :=
  .text "\n" :: Ink.header.line "Most contention:" ++
    (if h.contention.isEmpty then Ink.dim.line "  No events." else []) ++
    h.contention.flatMap fun line => Ink.summary.line ("  " ++ line.text)

/-- The detail panel. -/
def detail (panel : DetailPanel) : Screen :=
  .text "\n" :: match panel with
    | .placeholder => Ink.dim.line panel.header
    | .cell header expressions =>
      Ink.header.line header ++ expressions.map fun x => .text ("  " ++ x ++ "\n")

/-- A number that is flush right in three columns. -/
def listNumber (n : Nat) : String := String.ofList (Text.padLeft ' ' 3 (Text.digits n))

/-- The line of an entry of the listing: its number, its mark, and in how many cells it fires. -/
def listingLine (index : ExpressionIndex) (entry : ListingEntry) (number : Nat) : Screen :=
  let mark := String.ofList [if entry.highlighted then highlightedGlyph else ' ']
  let cells := (index.cellsFor entry.expression).length
  .text (listNumber number ++ ". " ++ mark ++ " " ++ entry.expression ++ " ") ::
    Ink.dim.line ("(" ++ Text.decimal cells ++ " cells)")

/-- The listing, numbered from 1. -/
def listing (h : HeatMap) : Screen :=
  .text "\n" :: Ink.header.line "Expressions:" ++
    (h.listing.zipIdx 1).flatMap fun (entry, number) => listingLine h.index entry number

/-! ### Views -/

/-- A message. -/
def info (text : String) : Screen := Ink.dim.line text

/-- An error. -/
def error (text : String) : Screen := Ink.error.line ("Error: " ++ text)

/-- A refused value of the form. -/
def fieldError (e : FieldError) : Screen :=
  Ink.error.line ("  " ++ e.value ++ " (" ++ e.field.name ++ "): " ++ e.message)

/-- The form with what was refused of it. -/
def form (s : Session) : Screen :=
  let q := s.form
  Ink.header.line "Expressions:" ++
    (if q.isEmpty then Ink.dim.line "  (none)" else []) ++
    ((Text.lines q.expressions.toList).map fun line =>
      Stroke.text ("  " ++ String.ofList line ++ "\n")) ++
    Ink.header.write "Date: " ++
    [.text ((if q.date = "" then Query.today else q.date) ++ "\n")] ++
    s.errors.flatMap fieldError

/-- A session. -/
def view (s : Session) : Screen :=
  let h := s.view
  (match s.mode with
    | .edit => form s
    | .rendered => grid h ++ contention h ++ detail h.detail ++ listing h) ++
    s.alert.elim [] error

/-- What an outcome leaves to be said when the session has been painted. -/
def outcome : Outcome → Screen
  | .busy => info "A request is already in flight."
  | .ignored => info "Nothing to evaluate."
  | .stale => info "Superseded response discarded."
  | .cleared => info "Cleared."
  | .drawn report =>
    info (Text.decimal report.cells ++ " cells (" ++ report.scale.name ++ " scale).")
  | .invalid _ | .rejected _ | .failed _ => []

/-- What greets the user. -/
def banner (serviceUrl zone : String) : Screen :=
  Ink.header.write "crontention" ++ [.text " - Cron contention heat map\n"] ++
    Ink.dim.write ("Service: " ++ serviceUrl ++ " | Time zone: " ++ zone ++ "\n" ++
      "Type 'help' for commands, 'quit' to end.\n---\n")

/-- What asks the user for a line. -/
def prompt : Screen := .text "\n" :: Ink.prompt.write "cron> "

/-- What takes leave of the user. -/
def farewell : Screen := info "Goodbye."

end CronHeatMap.Picture
