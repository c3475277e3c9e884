import CronHeatMap.HeatMap
import CronHeatMap.History
import CronHeatMap.Query.DateRule
import CronHeatMap.Service

/-!
# Sessions

A session holds the form, the history and the heat map, and turns submissions into requests. A
request is issued with a ticket; its answer is applied only if no later ticket has been issued
meanwhile. An operation that needs an answer is a `Turn`: it either ends at once or asks a query and
goes on with the answer.
-/

namespace CronHeatMap

/-- Which side of a session is on display. -/
inductive Mode where
  | edit
  | rendered
deriving Repr, DecidableEq, Inhabited

/-- The right to hand in the answer to a query. -/
structure Ticket where
  seq : Nat
  query : Query
deriving Repr, DecidableEq

/-- What a submission or navigation has led to. -/
inductive Outcome where
  /-- A request is still under way. -/
  | busy
  /-- There is nothing to do. -/
  | ignored
  /-- The date is refused without asking the service. -/
  | invalid (error : FieldError)
  | drawn (report : DrawReport)
  /-- The service refuses the query. -/
  | rejected (errors : List FieldError)
  /-- There is no evaluation; the text is shown as an alert. -/
  | failed (alert : String)
  /-- The answer belongs to a ticket that is not the latest, and is dropped. -/
  | stale
  /-- The entry gone to has no expressions, so that nothing is on display. -/
  | cleared
deriving Repr, DecidableEq

/-- An operation that ends with a result, perhaps after asking the service. -/
inductive Turn (α : Type) where
  | done (result : α)
  | ask (query : Query) (resume : Service.Answer → α)

/-- The result of an operation when a service with state `σ` gives the answers. -/
def Turn.run {α σ : Type} (service : Query → σ → Service.Answer × σ) (s : σ) : Turn α → α × σ
  | done result => (result, s)
  | ask query resume =>
    let (answer, s) := service query s
    (resume answer, s)

/-- The query that an operation asks, if it asks one. -/
def Turn.asked? {α : Type} : Turn α → Option Query
  | done _ => none
  | ask query _ => some query

/-- The operation whose result is made from that of another one. -/
def Turn.map {α β : Type} (f : α → β) : Turn α → Turn β
  | done result => .done (f result)
  | ask query resume => .ask query fun answer => f (resume answer)

@[simp] theorem Turn.run_map {α β σ : Type} (service : Query → σ → Service.Answer × σ) (s : σ)
    (f : α → β) (t : Turn α) :
    (t.map f).run service s = (f (t.run service s).1, (t.run service s).2) := by
  cases t <;> rfl

@[simp] theorem Turn.asked?_map {α β : Type} (f : α → β) (t : Turn α) :
    (t.map f).asked? = t.asked? := by
  cases t <;> rfl

/-- The state of a session. -/
structure Session where
  form : Query := {}
  errors : List FieldError := []
  alert : Option String := none
  submitEnabled : Bool := true
  mode : Mode := .edit
  /-- How many numbers have been given to tickets. -/
  issued : Nat := 0
  view : HeatMap
  history : History := .root
deriving DecidableEq

namespace Session

/-- A new session in a zone. -/
def new (today : Date) (zone : Zone) : Session := { view := .blank today zone }

/-! ### The form -/

/-- Replaces the expressions. -/
def setExpressions (s : Session) (text : String) : Session :=
  { s with form := { s.form with expressions := text } }

/-- The expressions with one more line. -/
def appendLine (expressions line : String) : String :=
  let cs := expressions.toList
  let gap := if cs = [] ∨ cs.getLast? = some '\n' then [] else ['\n']
  String.ofList (cs ++ gap ++ Text.trim line.toList)

/-- Adds an expression. -/
def addExpression (s : Session) (line : String) : Session :=
  s.setExpressions (appendLine s.form.expressions line)

/-- Drops all expressions. -/
def clearExpressions (s : Session) : Session := s.setExpressions ""

/-- Replaces the date. -/
def setDate (s : Session) (text : String) : Session :=
  { s with form := { s.form with date := text } }

/-! ### The view -/

/-- Changes the heat map. -/
def onView (s : Session) (f : HeatMap → HeatMap) : Session := { s with view := f s.view }

/-- Shows the form, and drops the highlight and the hold on the detail panel. -/
def edit (s : Session) : Session :=
  { s with mode := .edit, view := s.view.clearHighlight.unfreeze }

/-! ### Submissions -/

/-- What begins a submission: a ticket, or an outcome without a request. -/
inductive Submission where
  | issued (ticket : Ticket)
  | settled (outcome : Outcome)
deriving Repr, DecidableEq

/-- Records that the form is submitted with nothing in it. A location with a query is left for the
root. -/
def recordEmpty (s : Session) : Session := { s with history := s.history.visitRoot }

/-- Records the query that is submitted. -/
def recordForm (s : Session) : Session := { s with history := s.history.visit s.form }

/-- Issues a ticket for the form. -/
def issue (s : Session) : Ticket × Session :=
  let seq := s.issued + 1
  ({ seq, query := s.form }, { s with submitEnabled := false, issued := seq })

/-- Checks the form and issues a ticket if it is worth a request. With `push`, the history records
the submission. -/
def prepare (today : Date) (push : Bool) (s : Session) : Submission × Session :=
  let s := { s with errors := [], alert := none }
  match DateRule.check s.form.date today.year with
  | some error => (.settled (.invalid error), { s with errors := [error] }.edit)
  | none =>
    if s.form.isEmpty then (.settled .ignored, if push then s.recordEmpty else s)
    else
      let (ticket, s) := (if push then s.recordForm else s).issue
      (.issued ticket, s)

/-- Begins a submission, unless a request is under way. -/
def begin (today : Date) (push : Bool) (s : Session) : Submission × Session :=
  if s.submitEnabled then s.prepare today push else (.settled .busy, s)

/-- Shows an evaluation of a query. -/
def display (today : Date) (q : Query) (firings : List Firing) (s : Session) : Outcome × Session :=
  let view := (s.view.setReferenceDate q.date today).setListing q.lines
  let (report, view) := view.draw firings
  (.drawn report, { s with view, mode := .rendered })

/-- Applies the answer to a query. -/
def apply (today : Date) (q : Query) (s : Session) : Service.Answer → Outcome × Session
  | .ok (.rows firings) => s.display today q firings
  | .ok (.rejected rejection) =>
    let errors := rejection.fieldErrors
    (.rejected errors, { s with errors }.edit)
  | .error error => (.failed error.alert, { s with alert := some error.alert })

/-- Hands in the answer to a ticket. In any case, submitting is possible again. -/
def complete (today : Date) (ticket : Ticket) (s : Session) (answer : Service.Answer) :
    Outcome × Session :=
  let s := { s with submitEnabled := true }
  if ticket.seq = s.issued then s.apply today ticket.query answer else (.stale, s)

/-- Goes on from the beginning of a submission to its outcome. -/
def finish (today : Date) : Submission × Session → Turn (Outcome × Session)
  | (.issued ticket, s) => .ask ticket.query (s.complete today ticket)
  | (.settled outcome, s) => .done (outcome, s)

/-- Submits the form. -/
def submit (today : Date) (s : Session) : Turn (Outcome × Session) :=
  finish today (s.begin today true)

/-- Starts over at a location and begins to submit its query. -/
def beginLoad (today : Date) (location : String) (s : Session) : Submission × Session :=
  let form := Query.ofLocation location
  { s with form, history := (History.ofLocation location).replace (some form) }.begin today true

/-- Starts over at a location, whose query is submitted. -/
def load (today : Date) (location : String) (s : Session) : Turn (Outcome × Session) :=
  finish today (s.beginLoad today location)

/-! ### Navigation -/

/-- Takes everything off display. -/
def clear (s : Session) : Session :=
  { s with
    issued := s.issued + 1
    submitEnabled := true
    errors := []
    alert := none
    view := (s.view.draw []).2 }.edit

/-- Puts the query of the current entry into the form and begins to submit it again. -/
def beginReplay (today : Date) (s : Session) : Submission × Session :=
  match s.history.current.state with
  | none => (.settled .ignored, s)
  | some form =>
    let s := { s with form }
    if form.isEmpty then (.settled .cleared, s.clear) else s.prepare today false

/-- Moves to the neighbouring entry of the history in a direction and begins to replay it. -/
def beginNavigation (today : Date) (direction : History.Direction) (s : Session) :
    Submission × Session :=
  match s.history.step? direction with
  | none => (.settled .ignored, s)
  | some history => { s with history }.beginReplay today

/-- Goes to the neighbouring entry of the history in a direction. A request that is under way does
not stand in the way. -/
def navigate (today : Date) (direction : History.Direction) (s : Session) :
    Turn (Outcome × Session) :=
  finish today (s.beginNavigation today direction)

end Session

end CronHeatMap
