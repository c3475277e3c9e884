import CronHeatMap.Query.FieldError
import CronHeatMap.Text.Json

/-!
# Rejections

A service that understands a request but refuses what it asks for answers with a JSON object: a
complaint about the date, complaints about expressions, or both. Members that are not known are
passed over; a known member may not come twice, and one that is null counts as missing. A complaint
is an object or an array of its two texts.
-/

namespace CronHeatMap

/-- A value that the service refuses, and why. -/
structure Complaint where
  value : String
  message : String
deriving Repr, DecidableEq

/-- What the service refuses. -/
structure Rejection where
  date : Option Complaint := none
  expressions : Option (List Complaint) := none
deriving Repr, DecidableEq, Inhabited

namespace Rejection

/-- The field error for a complaint about a field. -/
def fieldError (field : Field) (c : Complaint) : FieldError :=
  { field, value := c.value, message := c.message }

/-- The complaints as field errors: the date first, then the expressions in the order reported. -/
def fieldErrors (r : Rejection) : List FieldError :=
  r.date.toList.map (fieldError .date) ++ (r.expressions.getD []).map (fieldError .expressions)

/-! ### Reading -/

/-- The text of a string value. -/
def text? : Json.Value → Option String
  | .string content => content
  | _ => none

/-- The values of the members with a key. -/
def valuesOf (key : String) (members : List (Option String × Json.Value)) : List Json.Value :=
  (members.filter (·.1 = some key)).map Prod.snd

/-- The members can be told apart: each key has a content, and no key of `known` comes twice. -/
def wellKeyed (known : List String) (members : List (Option String × Json.Value)) : Bool :=
  members.all (·.1.isSome) && known.all fun key => (valuesOf key members).length ≤ 1

/-- The name of the text that says why. -/
def messageKey : String := "msg"

/-- Reads a complaint whose value has the name `valueKey`. -/
def complaint? (valueKey : String) : Json.Value → Option Complaint
  | .array [value, message] => do return { value := ← text? value, message := ← text? message }
  | .object members => do
    guard (wellKeyed [valueKey, messageKey] members)
    return { value := ← (valuesOf valueKey members).head? >>= text?
             message := ← (valuesOf messageKey members).head? >>= text? }
  | _ => none

/-- Reads an optional member: missing or null, or something that `read?` accepts. -/
def member? {α : Type} (read? : Json.Value → Option α) : Option Json.Value → Option (Option α)
  | none | some .null => some none
  | some v => (read? v).map some

/-- Reads the items of an array. -/
def listOf? {α : Type} (read? : Json.Value → Option α) : Json.Value → Option (List α)
  | .array items => items.mapM read?
  | _ => none

/-- Reads a rejection. -/
def ofJson? : Json.Value → Option Rejection
  | .object members => do
    guard (wellKeyed ["date", "expressions"] members)
    let date ← member? (complaint? "value") (valuesOf "date" members).head?
    let expressions ← member? (listOf? (complaint? "expr")) (valuesOf "expressions" members).head?
    return { date, expressions }
  | _ => none

/-- Reads a rejection from a text. -/
def parse? (text : String) : Option Rejection := Json.parse? text >>= ofJson?

end Rejection

end CronHeatMap
