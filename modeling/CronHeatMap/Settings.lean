import CronHeatMap.Text.Numeral
import CronHeatMap.Text.UpperCase
import CronHeatMap.Web.Address
import CronHeatMap.Zone.Database

/-!
# Settings

Where the service is, in which zone the axes are labelled, and how long to wait for a reply.
Settings are laid over one another: variables of the environment over those of a file. With a
profile, the variable that begins with the name of the profile comes first. A variable that is empty
counts as missing.
-/

namespace CronHeatMap

/-- The variables of the environment, of which the first one with a name counts. -/
abbrev Environment := List (String × String)

namespace Environment

/-- The value of a variable that is not empty. -/
def value? (env : Environment) (name : String) : Option String :=
  (env.lookup name).filter (· ≠ "")

/-- The value of the variable of a profile, or of the plain one. An empty profile has no
variables. -/
def profiled? (env : Environment) (profile name : String) : Option String :=
  let own := if profile = "" then none else env.value? (profile ++ "_" ++ name)
  own <|> env.value? name

end Environment

/-- The settings. -/
structure Settings where
  /-- The name of the profile; empty for none. -/
  profile : String := ""
  serviceUrl : String := "http://localhost:8080"
  timeZone : String := "UTC"
  /-- How many seconds to wait for a reply. -/
  timeout : Nat := 30
deriving Repr, DecidableEq, Inhabited

namespace Settings

/-- The variable that names the profile. -/
def profileVariable : String := "CRONTENTION_PROFILE"

/-- The variable for the address of the service. -/
def serviceUrlVariable : String := "CRONTENTION_SERVICE_URL"

/-- The variable for the zone. -/
def timeZoneVariable : String := "CRONTENTION_TIMEZONE"

/-- The variable for the time to wait. -/
def timeoutVariable : String := "CRONTENTION_REQUEST_TIMEOUT_SECS"

/-- The number of times to wait, which are words of 64 bits. -/
def timeoutBound : Nat := UInt64.size

/-- The settings when the environment is laid over others. -/
def layered (env : Environment) (base : Settings) : Settings :=
  let profile := Text.UpperCase.ofText ((env.lookup profileVariable).getD "")
  let timeout? := (env.profiled? profile timeoutVariable).bind fun text =>
    Text.readBelow? timeoutBound text.toList
  { profile
    serviceUrl := (env.profiled? profile serviceUrlVariable).getD base.serviceUrl
    timeZone := (env.profiled? profile timeZoneVariable).getD base.timeZone
    timeout := timeout?.getD base.timeout }

/-- The name of the profile in words. -/
def profileLabel (s : Settings) : String := if s.profile = "" then "default" else s.profile

/-- How many seconds a request waits for its reply. -/
def requestTimeout (s : Settings) : Nat := max s.timeout 1

/-- Why settings cannot be used. -/
inductive Fault where
  /-- The address of the service is no address. -/
  | invalidUrl (url : String)
  /-- The service cannot be asked with this scheme. -/
  | scheme (name : String)
  | zone (error : Zone.Unknown)
deriving Repr, DecidableEq

/-- Why settings cannot be used, in words. -/
def Fault.message : Fault → String
  | invalidUrl url => "Configuration error: invalid service url '" ++ url ++ "'"
  | scheme name =>
    "Configuration error: service url must be http or https, was '" ++ name ++ "'"
  | zone error => error.message

/-- The schemes with which a service can be asked. -/
def webSchemes : List String := ["http", "https"]

/-- What is wrong with the address of the service, if anything is. -/
def urlFault? (s : Settings) : Option Fault :=
  match Web.Address.scheme? s.serviceUrl with
  | none => some (.invalidUrl s.serviceUrl)
  | some name => if name ∈ webSchemes then none else some (.scheme name)

/-- The zone that is set. -/
def zone (s : Settings) : Except Fault Zone :=
  match Zone.ofText s.timeZone with
  | .ok zone => .ok zone
  | .error error => .error (.zone error)

/-- The zone, if the settings can be used. -/
def usable (s : Settings) : Except Fault Zone :=
  match s.urlFault? with
  | some fault => .error fault
  | none => s.zone

end Settings

end CronHeatMap
