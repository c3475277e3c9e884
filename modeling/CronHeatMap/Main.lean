import CronHeatMap.Console.Launch
import CronHeatMap.Settings.EnvironmentFile
import Std.Time.DateTime

/-!
# The program

Reads the options, the environment and the settings file, starts a session, paints it, and replies
to each line that is typed. What is said and done is decided by `Launch` and `Dialogue`; here are
only the files, the clock and the terminal. No transport to the service is linked in, so every
request counts as one that had no response.
-/

namespace CronHeatMap.Program

/-- The text of a file, or nothing if there is no such file. -/
def contents? (path : String) : IO (Option String) := do
  try
    return some (← IO.FS.readFile path)
  catch
    | .noFileOrDirectory .. => return none
    | e => throw e

/-- The directory of a path. -/
def directory (path : String) : String :=
  "/".intercalate (path.splitOn "/").dropLast

/-- Writes a file and the directories above it, if that is allowed. -/
def tryWrite (path text : String) : IO Unit := do
  try
    if directory path ≠ "" then IO.FS.createDirAll (directory path)
    IO.FS.writeFile path text
  catch _ => return ()

/-- The current day in universal time. -/
def today : IO Date := do
  let now ← Std.Time.Timestamp.now
  let day := Std.Time.PlainDate.ofEpochDay now.toDaysSinceUnixEpoch
  return (Date.ofCivil? day.year day.month.val.toNat day.day.val.toNat).getD default

/-- A variable of the environment. -/
def variableOf? (entry : String) : Option (String × String) :=
  match entry.splitOn "=" with
  | name :: value :: more => some (name, "=".intercalate (value :: more))
  | _ => none

/-- The variables of the process. -/
def processEnvironment : IO Environment := do
  try
    let text ← IO.FS.readFile "/proc/self/environ"
    return (text.splitOn "\x00").filterMap variableOf?
  catch _ => return []

/-- A directory and all directories above it. -/
def directoriesFrom (path : String) : List String :=
  let parts := path.splitOn "/"
  (List.range parts.length).map fun above => "/".intercalate (parts.take (parts.length - above))

/-- The nearest environment file, in the current directory or above it. -/
def environmentFile? : List String → IO (Option String)
  | [] => return none
  | directory :: directories => do
    match ← contents? (directory ++ "/.env") with
    | some text => return some text
    | none => environmentFile? directories

/-- The environment, with the variables of the environment file. -/
def environment : IO Environment := do
  let env ← processEnvironment
  try
    let file ← environmentFile? (directoriesFrom (toString (← IO.currentDir)))
    return file.elim env (EnvironmentFile.load · env)
  catch _ => return env

/-- The text of the settings file. One with the usual settings is written if there is none. -/
def settingsFile (options : Options) (env : Environment) : IO (Option String) := do
  match options.config <|> SettingsFile.usualPlace? env with
  | none => throw (.userError "could not determine user config directory")
  | some path =>
    let file ← contents? path
    if file.isNone then tryWrite path SettingsFile.usualText
    return file

/-- Sends a screen to the terminal. -/
def paint (colors : Bool) (screen : Screen) : IO Unit := do
  let out ← IO.getStdout
  out.putStr (screen.text colors)
  out.flush

/-- Ends an operation whose request has no response. -/
def unanswered {α : Type} (turn : Turn α) : α :=
  (turn.run (fun _ (_ : Unit) => (Service.answerOf none, ())) ()).1

/-- Replies to lines until the dialogue is over. -/
partial def converse (colors : Bool) (s : Session) : IO Unit := do
  paint colors Picture.prompt
  let line ← (← IO.getStdin).getLine
  if line = "" then
    paint colors Picture.farewell
  else
    let reply := unanswered (Dialogue.respond (← today) s line)
    paint colors reply.screen
    unless reply.ended do converse colors reply.session

/-- Starts a session and carries on with it; the result is the exit code. -/
def launch (l : Launch) : IO UInt32 := do
  let (outcome, s) := unanswered (l.start (← today))
  paint l.colors (l.opening outcome s)
  if l.options.once then
    if Launch.succeeds outcome then return 0
    IO.eprintln "Error: evaluation did not produce a heat map"
    return 1
  converse l.colors s
  return 0

/-- Runs the program with options. -/
def run (options : Options) (env : Environment) : IO UInt32 := do
  try
    let file ← settingsFile options env
    match Launch.prepare options env file with
    | .error refusal =>
      IO.eprintln ("Error: " ++ refusal.message)
      return 1
    | .ok l => launch l
  catch e =>
    IO.eprintln ("Error: " ++ toString e)
    return 1

end CronHeatMap.Program

open CronHeatMap in
/-- Exits with 0 after success, with 1 after an error, and with 2 for options that are refused. -/
def main (words : List String) : IO UInt32 := do
  let env ← Program.environment
  match Options.parse words with
  | .ok options => Program.run options env
  | .error .help =>
    IO.println ("\n".intercalate Options.overview)
    return 0
  | .error fault =>
    IO.eprintln ("error: " ++ fault.message)
    return 2
