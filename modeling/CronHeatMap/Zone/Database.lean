import CronHeatMap.Text.Blank
import CronHeatMap.Zone.Data.Eras
import CronHeatMap.Zone.Data.Links
import CronHeatMap.Zone.Data.Rules
import CronHeatMap.Zone.Timeline

/-!
# Zones by name

Looks zones up in the time zone database. Names are matched exactly, case included; blanks around
them are ignored.
-/

namespace CronHeatMap.Zone

/-- The lines of a data text. -/
def dataLines (text : String) : List String := (text.splitOn "\n").filter (· ≠ "")

/-- The rules with a name. -/
def rulesNamed (name : String) : List Rule :=
  ((dataLines Data.rules).filter (·.startsWith (name ++ " "))).filterMap fun line =>
    (Rule.ofLine? line).map Prod.snd

/-- The mark in front of the name of a zone in the data. -/
def nameMark : String := "Zone "

/-- The eras of the zone with a name, if there is one. -/
def erasNamed? (name : String) : Option (List Era) :=
  match (dataLines Data.eras).dropWhile (· ≠ nameMark ++ name) with
  | [] => none
  | _ :: more => some ((more.takeWhile (!·.startsWith nameMark)).filterMap Era.ofLine?)

/-- The name under which the data of a zone is kept: the zone that a link leads to, or the name
itself. -/
def mainName (name : String) : String :=
  ((dataLines Data.links).findSome? fun line =>
    match words line with
    | main :: others => if name ∈ others then some main else none
    | [] => none).getD name

/-- The zone with a name. -/
def named? (name : String) : Option Zone :=
  (erasNamed? (mainName name)).map (ofEras name rulesNamed)

/-- A name that no zone has. -/
structure Unknown where
  name : String
deriving Repr, DecidableEq

/-- What is wrong with an unknown name, in words. -/
def Unknown.message (e : Unknown) : String := "Unknown time zone: " ++ e.name

/-- The zone that a text names. -/
def ofText (text : String) : Except Unknown Zone :=
  match named? (Text.trimmed text) with
  | some zone => .ok zone
  | none => .error ⟨text⟩

end CronHeatMap.Zone
