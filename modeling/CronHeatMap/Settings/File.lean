import CronHeatMap.Settings
import CronHeatMap.Toml.Document

/-!
# The settings file

Settings that are kept in a file, with the date to ask about unless another one is given. Keys that
are missing have their usual values, and keys that are not known are passed over.
-/

namespace CronHeatMap

/-- What the settings file says. -/
structure SettingsFile where
  serviceUrl : String := ({} : Settings).serviceUrl
  timeZone : String := ({} : Settings).timeZone
  timeout : Nat := ({} : Settings).timeout
  defaultDate : Option String := none
deriving Repr, DecidableEq, Inhabited

namespace SettingsFile

/-- The key of the address of the service. -/
def serviceUrlKey : String := "service_url"

/-- The key of the zone. -/
def timeZoneKey : String := "time_zone"

/-- The key of the time to wait. -/
def timeoutKey : String := "request_timeout_secs"

/-- The key of the date. -/
def defaultDateKey : String := "default_date"

/-- Reads an optional entry. -/
def entry? {α : Type} (read? : Toml.Scalar → Option α) (key : String) (entries : Toml.Entries) :
    Option (Option α) :=
  match Toml.Entries.get? key entries with
  | none => some none
  | some (.scalar s) => (read? s).map some
  | some _ => none

/-- The text of a string. -/
def text? : Toml.Scalar → Option String
  | .string text => some text
  | _ => none

/-- A number that is not negative. -/
def nat? : Toml.Scalar → Option Nat
  | .integer (.ofNat n) => some n
  | _ => none

/-- Reads the entries of a file. -/
def ofEntries? (entries : Toml.Entries) : Option SettingsFile := do
  let usual : SettingsFile := {}
  let serviceUrl ← entry? text? serviceUrlKey entries
  let timeZone ← entry? text? timeZoneKey entries
  let timeout ← entry? nat? timeoutKey entries
  let defaultDate ← entry? text? defaultDateKey entries
  return {
    serviceUrl := serviceUrl.getD usual.serviceUrl
    timeZone := timeZone.getD usual.timeZone
    timeout := timeout.getD usual.timeout
    defaultDate }

/-- Reads a file. -/
def parse? (text : String) : Option SettingsFile := Toml.parse? text >>= ofEntries?

/-- The text of the file with the usual settings. -/
def usualText : String :=
  let usual : SettingsFile := {}
  serviceUrlKey ++ " = \"" ++ usual.serviceUrl ++ "\"\n" ++
  timeZoneKey ++ " = \"" ++ usual.timeZone ++ "\"\n" ++
  timeoutKey ++ " = " ++ Text.decimal usual.timeout ++ "\n"

/-- Where the file is unless its place is named at launch: in the directory for settings, which must
be given from the root on, or else in the usual one below the home directory. -/
def usualPlace? (env : Environment) : Option String :=
  let named := (env.lookup "XDG_CONFIG_HOME").filter (·.toList.head? = some '/')
  let home := (env.lookup "HOME").filter (· ≠ "")
  (named <|> home.map (· ++ "/.config")).map (· ++ "/crontention/config.toml")

/-- The settings of a file. -/
def settings (f : SettingsFile) : Settings :=
  { serviceUrl := f.serviceUrl, timeZone := f.timeZone, timeout := f.timeout }

/-- The settings that result from a file, the environment over it, and launch options over both. -/
def resolve (f : SettingsFile) (env : Environment) (server timezone : Option String) : Settings :=
  let layered := f.settings.layered env
  { layered with
    serviceUrl := server.getD layered.serviceUrl
    timeZone := timezone.getD layered.timeZone }

/-- The date to ask about: the one given at launch, or else that of the file, or else none. -/
def resolveDate (f : SettingsFile) (date : Option String) : String :=
  (date <|> f.defaultDate).getD ""

end SettingsFile

end CronHeatMap
