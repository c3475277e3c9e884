import CronHeatMap.Grid
import CronHeatMap.Text.Blank
import CronHeatMap.Text.Lines

/-!
# Commands

What can be typed at the prompt: a word, and an argument for the words that take one. Blanks around
the word and the argument are ignored.
-/

namespace CronHeatMap

/-- A command. -/
inductive Command where
  /-- Adds an expression to the form. -/
  | expr (text : String)
  /-- Drops all expressions of the form. -/
  | clear
  /-- Sets the date of the form. -/
  | date (text : String)
  /-- Submits the form. -/
  | eval
  /-- Goes back to the form. -/
  | edit
  /-- Moves the pointer onto a cell. -/
  | hover (seat : Seat)
  /-- Moves the pointer off the grid. -/
  | leave
  /-- Clicks on a cell. -/
  | click (seat : Seat)
  /-- Picks out an expression of the listing, counted from 1. -/
  | highlight (number : Nat)
  /-- Labels the axes in another zone. -/
  | zone (name : String)
  | back
  | forward
  /-- Prints the location. -/
  | url
  /-- Paints the view again. -/
  | repaint
  | help
  | quit
deriving Repr, DecidableEq

namespace Command

/-- Why a line is no command. -/
inductive Fault where
  | unknown (word : String)
  | noArgument (word : String)
  | noNumber (text : String)
  /-- The listing has no number 0. -/
  | zero
  | noTime (text : String)
  | badHour (text : String)
  | badMinute (text : String)
  /-- The hour or the minute is too large. -/
  | noMinuteOfDay (text : String)
deriving Repr, DecidableEq

/-- Why a line is no command, in words. -/
def Fault.message : Fault → String
  | unknown word => "unknown command '" ++ word ++ "', try 'help'"
  | noArgument word => "'" ++ word ++ "' needs an argument"
  | noNumber text => "expected a listing number, got '" ++ text ++ "'"
  | zero => "listing numbers start at 1"
  | noTime text => "expected HH:MM, got '" ++ text ++ "'"
  | badHour text => "bad hour in '" ++ text ++ "'"
  | badMinute text => "bad minute in '" ++ text ++ "'"
  | noMinuteOfDay text => "'" ++ text ++ "' is not a minute of the day"

/-- The number of values of the parts of a time, which are read as bytes. -/
def timePartBound : Nat := UInt8.size

/-- The number of values of listing numbers, which are words of 64 bits. -/
def listingNumberBound : Nat := UInt64.size

/-- The place on the grid for a time of day that is written as hour and minute with a colon between
them. -/
def seatOf (cs : List Char) : Except Fault Seat :=
  let text := String.ofList cs
  match Text.cutAt (· == ':') cs with
  | none => .error (.noTime text)
  | some (h, m) =>
    match Text.readBelow? timePartBound h, Text.readBelow? timePartBound m with
    | none, _ => .error (.badHour text)
    | some _, none => .error (.badMinute text)
    | some hour, some minute =>
      if hour < hoursPerDay ∧ minute < minutesPerHour then .ok { hour, minute }
      else .error (.noMinuteOfDay text)

/-- The number of an entry of the listing. -/
def numberOf (cs : List Char) : Except Fault Nat :=
  match Text.readBelow? listingNumberBound cs with
  | none => .error (.noNumber (String.ofList cs))
  | some 0 => .error .zero
  | some number => .ok number

/-- The command with a word and an argument, which is empty if there is none. -/
def ofWord (word : String) (argument : List Char) : Except Fault Command :=
  let required (f : List Char → Except Fault Command) : Except Fault Command :=
    if argument.isEmpty then .error (.noArgument word) else f argument
  match word with
  | "expr" => required fun cs => .ok (.expr (String.ofList cs))
  | "clear" => .ok .clear
  | "date" => .ok (.date (String.ofList argument))
  | "eval" => .ok .eval
  | "edit" => .ok .edit
  | "hover" => required fun cs => (seatOf cs).map .hover
  | "leave" => .ok .leave
  | "click" => required fun cs => (seatOf cs).map .click
  | "hl" => required fun cs => (numberOf cs).map .highlight
  | "tz" => required fun cs => .ok (.zone (String.ofList cs))
  | "back" => .ok .back
  | "forward" => .ok .forward
  | "url" => .ok .url
  | "show" => .ok .repaint
  | "help" | "?" => .ok .help
  | "quit" | "exit" | "/quit" | "/exit" => .ok .quit
  | _ => .error (.unknown word)

/-- A line as its first word and what follows, without the blanks around them. -/
def splitWord (cs : List Char) : List Char × List Char :=
  match Text.cutAt Text.isBlank (Text.trim cs) with
  | some (word, rest) => (word, Text.trim rest)
  | none => (Text.trim cs, [])

/-- Reads a line. -/
def parse (line : String) : Except Fault Command :=
  let (word, argument) := splitWord line.toList
  ofWord (String.ofList word) argument

/-! ### Writing -/

/-- A place on the grid as a time of day. -/
def timeText (seat : Seat) : String := Text.twoDigits seat.hour ++ ":" ++ Text.twoDigits seat.minute

/-- The line that is the plainest way to give a command. -/
def text : Command → String
  | expr text => "expr " ++ text
  | clear => "clear"
  | date text => "date " ++ text
  | eval => "eval"
  | edit => "edit"
  | hover seat => "hover " ++ timeText seat
  | leave => "leave"
  | click seat => "click " ++ timeText seat
  | highlight number => "hl " ++ Text.decimal number
  | zone name => "tz " ++ name
  | back => "back"
  | forward => "forward"
  | url => "url"
  | repaint => "show"
  | help => "help"
  | quit => "quit"

/-- What the commands do, in words. -/
def overview : List String :=
  ["expr <cron>     add an expression line",
   "clear           remove all expressions",
   "date <text>     set the date (today or YYYY-MM-DD)",
   "eval            submit the form",
   "edit            back to the form",
   "hover <HH:MM>   show a cell in the detail panel",
   "leave           move the pointer off the grid",
   "click <HH:MM>   freeze or thaw the detail panel on a cell",
   "hl <n>          toggle highlight of listed expression n",
   "tz <zone>       relabel axes for an IANA time zone",
   "back, forward   walk history",
   "url             print the shareable query",
   "show            repaint the view",
   "quit            exit"]

end Command

end CronHeatMap
