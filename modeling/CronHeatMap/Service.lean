import CronHeatMap.Query
import CronHeatMap.Service.Rejection
import CronHeatMap.Table

/-!
# The service

A service evaluates queries. A request is posted to its endpoint with the query as a form; the reply
is a table of firings, a rejection, or a failure.
-/

namespace CronHeatMap.Service

/-- What the service found. -/
inductive Evaluation where
  | rows (firings : List Firing)
  | rejected (rejection : Rejection)
deriving Repr, DecidableEq

/-- Why there is no evaluation. -/
inductive Error where
  /-- The table cannot be read. -/
  | malformedTable (error : Table.Error)
  /-- The reply looks like a rejection but is none. -/
  | malformedRejection
  /-- No reply was received. -/
  | unreachable
  /-- The service has failed for a reason of its own. -/
  | refused (status : Nat) (body : String)
  /-- A condition that should always hold does not. -/
  | invariant (text : String)
deriving Repr, DecidableEq

/-- Why there is no evaluation, in words. -/
def Error.message : Error → String
  | malformedTable error => "Malformed table: " ++ error.message
  | malformedRejection => "Malformed error body: not a rejection"
  | unreachable => "HTTP request failed: no reply from the service"
  | refused status body =>
    "Evaluation service returned " ++ Text.decimal status ++ ": " ++ body
  | invariant text => "Invariant violated: " ++ text

/-- What the user is told about an error: the words of the service if it said any. -/
def Error.alert : Error → String
  | refused _ body => body
  | error => error.message

/-- What asking the service leads to. -/
abbrev Answer := Except Error Evaluation

/-- A reply of the service. -/
structure Response where
  status : Nat
  body : String
deriving Repr, DecidableEq

/-- The reply reports success. -/
def Response.isSuccess (r : Response) : Bool := 200 ≤ r.status && r.status < 300

/-- Reads the body of a reply. A failure whose body starts with a brace is a rejection. -/
def interpret (status : Nat) (success : Bool) (body : String) : Answer :=
  if success then
    match Table.parse body with
    | .ok firings => .ok (.rows firings)
    | .error error => .error (.malformedTable error)
  else if body.startsWith "\x7b" then
    match Rejection.parse? body with
    | some rejection => .ok (.rejected rejection)
    | none => .error .malformedRejection
  else .error (.refused status body)

/-- Reads a reply. -/
def Response.answer (r : Response) : Answer := interpret r.status r.isSuccess r.body

/-! ### Requests -/

/-- The path of the endpoint under the address of the service. -/
def evaluatePath : String := "/evaluate"

/-- The endpoint of the service with an address. Slashes at the end of the address are dropped. -/
def endpoint (address : String) : String :=
  String.ofList (Text.dropEndWhile (· == '/') address.toList) ++ evaluatePath

/-- A request to the service, which is posted. -/
structure Request where
  url : String
  contentType : String
  body : String
deriving Repr, DecidableEq

/-- The request for a query. -/
def request (address : String) (q : Query) : Request where
  url := endpoint address
  contentType := "application/x-www-form-urlencoded"
  body := q.formBody

/-- The answer to a request, given its reply if one was received. -/
def answerOf : Option Response → Answer
  | some response => response.answer
  | none => .error .unreachable

end CronHeatMap.Service
