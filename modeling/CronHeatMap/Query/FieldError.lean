/-!
# Field errors

Why the value of a field of the form was refused.
-/

namespace CronHeatMap

/-- A field of the form. -/
inductive Field where
  | date
  | expressions
deriving Repr, DecidableEq

/-- The name of a field. -/
def Field.name : Field → String
  | .date => "date"
  | .expressions => "expressions"

/-- A refused value and the reason, in words for the user. -/
structure FieldError where
  field : Field
  value : String
  message : String
deriving Repr, DecidableEq

/-- A refused value with the reason. -/
def FieldError.text (e : FieldError) : String := e.value ++ ": " ++ e.message

end CronHeatMap
