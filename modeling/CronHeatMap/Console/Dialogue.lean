import CronHeatMap.Console.Command
import CronHeatMap.Console.Picture
import CronHeatMap.Zone.Database

/-!
# Dialogue

What each command does to a session, and what is painted in reply.
-/

namespace CronHeatMap

/-- The reply to a line. -/
structure Reply where
  session : Session
  screen : Screen := []
  /-- The dialogue is over. -/
  ended : Bool := false

namespace Dialogue

/-- The reply that paints a session with what has become of a submission. -/
def painted (result : Outcome × Session) : Reply :=
  { session := result.2, screen := Picture.view result.2 ++ Picture.outcome result.1 }

/-- Does something to the cell at a place, if there is one. -/
def onCell (s : Session) (seat : Seat) (f : ElementId → HeatMap × (HeatMap → Screen)) : Reply :=
  match s.view.scene.at? seat with
  | none => { session := s, screen := Picture.error ("no cell at " ++ Command.timeText seat) }
  | some e =>
    let (view, paint) := f e.id
    { session := { s with view }, screen := paint view }

/-- Goes through the history, if there is an entry in this direction. -/
def walk (today : Date) (s : Session) (direction : History.Direction) (refusal : String) :
    Turn Reply :=
  match s.history.step? direction with
  | none => .done { session := s, screen := Picture.info refusal }
  | some _ => (s.navigate today direction).map painted

/-- Picks out an entry of the listing by its number. -/
def pick (s : Session) (number : Nat) : Reply :=
  if s.view.listing.length < number then
    { session := s
      screen := Picture.error ("no expression " ++ Text.decimal number ++ " in listing") }
  else
    let view := (s.view.toggleHighlight (number - 1)).2
    { session := { s with view }, screen := Picture.grid view ++ Picture.listing view }

/-- Labels the axes in another zone. -/
def relabel (s : Session) (name : String) : Reply :=
  match Zone.ofText name with
  | .error e => { session := s, screen := Picture.error e.message }
  | .ok zone =>
    let s := s.onView (·.setZone zone)
    { session := s, screen := Picture.grid s.view }

/-- Carries out a command. -/
def carryOut (today : Date) (s : Session) : Command → Turn Reply
  | .expr text =>
    let s := s.addExpression text
    .done { session := s
            screen := Picture.info (Text.decimal s.form.lines.length ++ " expression(s) in form.") }
  | .clear => .done { session := s.clearExpressions, screen := Picture.info "Expressions cleared." }
  | .date text => .done { session := s.setDate text }
  | .eval => (s.submit today).map painted
  | .edit => .done { session := s.edit, screen := Picture.view s.edit }
  | .hover seat => .done (onCell s seat fun cell =>
      ((s.view.hover cell).2, fun h => Picture.detail h.detail))
  | .leave => .done { session := s.onView fun h => h.hovered.elim h h.leave }
  | .click seat => .done (onCell s seat fun cell =>
      ((s.view.click cell).2, fun h => Picture.grid h ++ Picture.detail h.detail))
  | .highlight number => .done (pick s number)
  | .zone name => .done (relabel s name)
  | .back => walk today s .back "Already at the oldest entry."
  | .forward => walk today s .forward "Already at the newest entry."
  | .url => .done { session := s, screen := Picture.info s.history.location }
  | .repaint => .done { session := s, screen := Picture.view s }
  | .help => .done { session := s, screen := Picture.info ("\n".intercalate Command.overview) }
  | .quit => .done { session := s, screen := Picture.farewell, ended := true }

/-- Replies to a line. A blank line has no reply. -/
def respond (today : Date) (s : Session) (line : String) : Turn Reply :=
  if (Text.trim line.toList).isEmpty then .done { session := s }
  else match Command.parse line with
    | .error fault => .done { session := s, screen := Picture.error fault.message }
    | .ok command => carryOut today s command

end Dialogue

end CronHeatMap
