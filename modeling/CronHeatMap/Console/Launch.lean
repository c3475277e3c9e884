import CronHeatMap.Console.Arguments
import CronHeatMap.Console.Dialogue
import CronHeatMap.Settings.File

/-!
# Launching

From the options, the environment and the settings file to the first painting. A query may be given
as an address that was shared, or as expressions with a date; it is submitted at once.
-/

namespace CronHeatMap

/-- Why the program does not start. -/
inductive Refusal where
  /-- The settings file cannot be read. -/
  | malformedFile
  /-- The settings cannot be used. -/
  | settings (fault : Settings.Fault)
deriving Repr, DecidableEq

/-- Why the program does not start, in words. -/
def Refusal.message : Refusal → String
  | malformedFile => "failed to load configuration"
  | settings fault => fault.message

/-- A program that can start. -/
structure Launch where
  options : Options
  settings : Settings
  zone : Zone
  /-- The date to ask about. -/
  date : String
  /-- The terminal is to show colours. -/
  colors : Bool := true

namespace Launch

/-- The settings file, which has the usual settings if there is none. -/
def fileOf? : Option String → Option SettingsFile
  | none => some {}
  | some text => SettingsFile.parse? text

/-- The variable with which the user asks for no colours. -/
def noColorVariable : String := "NO_COLOR"

/-- Gets ready, given the text of the settings file if there is one. -/
def prepare (options : Options) (env : Environment) (file : Option String) :
    Except Refusal Launch :=
  match fileOf? file with
  | none => .error .malformedFile
  | some f =>
    let settings := f.resolve env options.server options.timezone
    match settings.usable with
    | .error fault => .error (.settings fault)
    | .ok zone => .ok
        { options, settings, zone, date := f.resolveDate options.date
          colors := (env.value? noColorVariable).isNone }

/-- The location of a query that was given as an address. Slashes at its front do not matter, nor
whether a question mark follows them. -/
def locationOfUrl (url : String) : String :=
  match url.toList.dropWhile (· == '/') with
  | '?' :: cs => History.rootLocation ++ String.ofList ('?' :: cs)
  | cs => History.rootLocation ++ String.ofList ('?' :: cs)

/-- The query of the expressions given at launch. -/
def queryOf (expressions : List String) (date : String) : Query :=
  { expressions := "\n".intercalate expressions, date }

/-- The location where the session starts. -/
def location (options : Options) (date : String) : String :=
  match options.url with
  | some url => locationOfUrl url
  | none =>
    if options.expressions.isEmpty then History.rootLocation
    else History.rootLocation ++ (queryOf options.expressions date).location

/-- Fills in the date where no query was loaded. -/
def fillDate (date : String) (s : Session) : Session :=
  if s.form.isEmpty ∧ date ≠ "" then s.setDate date else s

/-- Starts a session. -/
def start (today : Date) (l : Launch) : Turn (Outcome × Session) :=
  ((Session.new today l.zone).load today (location l.options l.date)).map fun (outcome, s) =>
    (outcome, fillDate l.date s)

/-- The first painting. A session that is to be painted only once has no banner. -/
def opening (l : Launch) (outcome : Outcome) (s : Session) : Screen :=
  if l.options.once then Picture.view s
  else
    Picture.banner l.settings.serviceUrl l.settings.timeZone ++ Picture.view s ++
      Picture.outcome outcome

/-- The first submission counts as a success. -/
def succeeds : Outcome → Bool
  | .drawn _ | .ignored => true
  | _ => false

end Launch

end CronHeatMap
