import CronHeatMap.Proofs.Session.Basic

/-!
# Runs of a session

A session is used by one action after another: edits of the form, work on the display, requests that
are begun and answers that are handed in at any later time, and operations that are carried out to
their end. A `Run` is what has happened so far together with the state it has led to. Answers are
arbitrary, and the current day may be another one with each action.
-/

namespace CronHeatMap

/-- The result of an operation when the service gives a certain answer if it is asked. -/
def Turn.resolve {α : Type} (answer : Service.Answer) : Turn α → α
  | done result => result
  | ask _ resume => resume answer

@[simp] lemma Turn.resolve_map {α β : Type} (f : α → β) (answer : Service.Answer) (t : Turn α) :
    (t.map f).resolve answer = f (t.resolve answer) := by
  cases t <;> rfl

/-- With any service an operation ends as it does with some answer that is known beforehand. -/
lemma Turn.exists_run_eq_resolve {α σ : Type} (service : Query → σ → Service.Answer × σ) (s : σ)
    (t : Turn α) : ∃ answer, (t.run service s).1 = t.resolve answer := by
  cases t with
  | done result => exact ⟨.error .unreachable, rfl⟩
  | ask q resume => exact ⟨(service q s).1, rfl⟩

namespace Session

@[simp] lemma resolve_finish_issued (today : Date) (ticket : Ticket) (s : Session)
    (answer : Service.Answer) :
    (finish today (.issued ticket, s)).resolve answer = s.complete today ticket answer := rfl

@[simp] lemma resolve_finish_settled (today : Date) (outcome : Outcome) (s : Session)
    (answer : Service.Answer) :
    (finish today (.settled outcome, s)).resolve answer = (outcome, s) := rfl

@[simp] lemma asked?_finish_issued (today : Date) (ticket : Ticket) (s : Session) :
    (finish today (.issued ticket, s)).asked? = some ticket.query := rfl

@[simp] lemma asked?_finish_settled (today : Date) (outcome : Outcome) (s : Session) :
    (finish today (.settled outcome, s)).asked? = none := rfl

/-! ### Actions -/

/-- An edit of the form. -/
inductive FormEdit where
  | setExpressions (text : String)
  | addExpression (line : String)
  | clearExpressions
  | setDate (text : String)

/-- The session after an edit of its form. -/
def FormEdit.apply (s : Session) : FormEdit → Session
  | setExpressions text => s.setExpressions text
  | addExpression line => s.addExpression line
  | clearExpressions => s.clearExpressions
  | setDate text => s.setDate text

/-- An edit of the form changes nothing else. -/
lemma FormEdit.apply_eq (s : Session) (edit : FormEdit) :
    ∃ form, edit.apply s = { s with form } := by
  cases edit <;> exact ⟨_, rfl⟩

/-- An operation that asks the service if it comes to that. -/
inductive Operation where
  | submit
  | load (location : String)
  | navigate (direction : History.Direction)

namespace Operation

/-- The beginning of an operation. -/
def begin (today : Date) (s : Session) : Operation → Submission × Session
  | submit => s.begin today true
  | load location => s.beginLoad today location
  | navigate direction => s.beginNavigation today direction

/-- A whole operation. -/
def turn (today : Date) (s : Session) : Operation → Turn (Outcome × Session)
  | submit => s.submit today
  | load location => s.load today location
  | navigate direction => s.navigate today direction

/-- An operation is its beginning, followed by the answer to the ticket if one was issued. -/
lemma turn_eq_finish (today : Date) (s : Session) (op : Operation) :
    op.turn today s = finish today (op.begin today s) := by
  cases op <;> rfl

/-- An operation puts a query and a history in place. With these it finds the session busy or nothing
to do, or it clears the display, or it prepares a request; if this is not to be recorded, then the
query is the one of the current entry. -/
lemma begin_cases (today : Date) (s : Session) (op : Operation) :
    ∃ form history,
      (∃ outcome, (outcome = .busy ∨ outcome = .ignored) ∧
        op.begin today s = (.settled outcome, { s with form, history })) ∨
      op.begin today s = (.settled .cleared, { s with form, history }.clear) ∨
      ∃ push, (push = false → history.current.state = some form) ∧
        op.begin today s = { s with form, history }.prepare today push := by
  cases op with
  | submit =>
    refine ⟨s.form, s.history, ?_⟩
    rcases Session.begin_cases today true s with ⟨-, heq⟩ | ⟨-, heq⟩
    · exact Or.inl ⟨.busy, Or.inl rfl, heq⟩
    · exact Or.inr (Or.inr ⟨true, by simp, heq⟩)
  | load location =>
    let form := Query.ofLocation location
    let history := (History.ofLocation location).replace (some form)
    refine ⟨form, history, ?_⟩
    rcases Session.begin_cases today true { s with form, history } with ⟨-, heq⟩ | ⟨-, heq⟩
    · exact Or.inl ⟨.busy, Or.inl rfl, heq⟩
    · exact Or.inr (Or.inr ⟨true, by simp, heq⟩)
  | navigate direction =>
    rcases beginNavigation_cases today direction s with
      ⟨-, heq⟩ | ⟨h, -, ⟨-, heq⟩ | ⟨q, hstate, ⟨-, heq⟩ | ⟨-, heq⟩⟩⟩
    · exact ⟨s.form, s.history, Or.inl ⟨.ignored, Or.inr rfl, heq⟩⟩
    · exact ⟨s.form, h, Or.inl ⟨.ignored, Or.inr rfl, heq⟩⟩
    · exact ⟨q, h, Or.inr (Or.inl heq)⟩
    · exact ⟨q, h, Or.inr (Or.inr ⟨false, fun _ => hstate, heq⟩)⟩

/-- What an operation can settle from the beginning: it clears the display, which enables submitting,
or it leaves the switch for submitting as it is. -/
lemma begin_settled {today : Date} {s s' : Session} {op : Operation} {outcome : Outcome}
    (hbegin : op.begin today s = (.settled outcome, s')) :
    outcome = .cleared ∧ s'.submitEnabled = true ∨
      (outcome = .busy ∨ outcome = .ignored ∨ ∃ error, outcome = .invalid error) ∧
        s'.submitEnabled = s.submitEnabled := by
  obtain ⟨form, history, ⟨outcome', houtcome, heq⟩ | heq | ⟨push, -, heq⟩⟩ := op.begin_cases today s
  · cases heq.symm.trans hbegin
    exact Or.inr ⟨houtcome.imp_right Or.inl, rfl⟩
  · cases heq.symm.trans hbegin
    exact Or.inl ⟨rfl, rfl⟩
  · obtain ⟨houtcome, hswitch⟩ :=
      prepare_settled (s := { s with form, history }) (heq.symm.trans hbegin)
    exact Or.inr ⟨Or.inr houtcome, hswitch⟩

end Operation

/-- What is done to a session. -/
inductive Action where
  /-- The form is edited. -/
  | type (edit : FormEdit)
  /-- The form is shown. -/
  | edit
  /-- Something is done to the heat map. -/
  | onView (f : HeatMap → HeatMap)
  /-- A submission is begun. -/
  | begin (push : Bool)
  /-- An answer to a ticket is handed in. -/
  | complete (ticket : Ticket) (answer : Service.Answer)
  /-- An operation is carried out, for which the service has an answer. -/
  | carryOut (op : Operation) (answer : Service.Answer)

/-- Requests are not split: no submission is merely begun, and no answer is handed in on its own. -/
def Action.Whole : Action → Prop
  | begin _ | complete _ _ => False
  | _ => True

instance : DecidablePred Action.Whole
  | .begin _ | .complete _ _ => .isFalse id
  | .type _ | .edit | .onView _ | .carryOut _ _ => .isTrue trivial

/-! ### Events -/

/-- The ticket with which a request was begun. -/
def Submission.ticket? : Submission → Option Ticket
  | issued ticket => some ticket
  | settled _ => none

/-- The outcome without a request. -/
def Submission.outcome? : Submission → Option Outcome
  | issued _ => none
  | settled outcome => some outcome

/-- An action that was taken, with what it has brought about. -/
structure Event where
  action : Action
  /-- The ticket that was issued. -/
  issued? : Option Ticket := none
  /-- The ticket to which an answer was handed in. -/
  answered? : Option Ticket := none
  outcome? : Option Outcome := none

namespace Event

/-- A ticket was issued, or the display was cleared. -/
def Supersedes (e : Event) : Prop := e.issued?.isSome = true ∨ e.outcome? = some .cleared

/-- The ticket whose answer was applied. -/
def applied? (e : Event) : Option Ticket :=
  if e.outcome? = some .stale then none else e.answered?

/-- An answer was handed in on its own. -/
def Completes (e : Event) : Prop := e.action matches .complete _ _

/-- The session went to another entry of its history. -/
def Navigates (e : Event) : Prop := e.action matches .carryOut (.navigate _) _

instance (e : Event) : Decidable e.Supersedes := inferInstanceAs (Decidable (_ ∨ _))
instance (e : Event) : Decidable e.Completes := inferInstanceAs (Decidable (_ = true))
instance (e : Event) : Decidable e.Navigates := inferInstanceAs (Decidable (_ = true))

end Event

/-- Takes an action. -/
def act (today : Date) (s : Session) (action : Action) : Event × Session :=
  match action with
  | .type edit => ({ action }, edit.apply s)
  | .edit => ({ action }, s.edit)
  | .onView f => ({ action }, s.onView f)
  | .begin push =>
    let (submission, s) := s.begin today push
    ({ action, issued? := submission.ticket?, outcome? := submission.outcome? }, s)
  | .complete ticket answer =>
    let (outcome, s) := s.complete today ticket answer
    ({ action, answered? := some ticket, outcome? := some outcome }, s)
  | .carryOut op answer =>
    let ticket? := (op.begin today s).1.ticket?
    let (outcome, s) := (op.turn today s).resolve answer
    ({ action, issued? := ticket?, answered? := ticket?, outcome? := some outcome }, s)

@[simp] lemma act_action (today : Date) (s : Session) (action : Action) :
    (s.act today action).1.action = action := by
  cases action <;> rfl

/-- How a submission begins: it is settled, or a ticket is issued. -/
lemma act_begin_cases (today : Date) (s : Session) (push : Bool) :
    (∃ outcome s', s.begin today push = (.settled outcome, s') ∧
      s.act today (.begin push) =
        ({ action := .begin push, outcome? := some outcome }, s')) ∨
    ∃ ticket s', s.begin today push = (.issued ticket, s') ∧
      s.act today (.begin push) = ({ action := .begin push, issued? := some ticket }, s') := by
  rcases hbegin : s.begin today push with ⟨ticket | outcome, s'⟩
  · refine Or.inr ⟨ticket, s', rfl, ?_⟩
    simp only [act, hbegin]
    rfl
  · refine Or.inl ⟨outcome, s', rfl, ?_⟩
    simp only [act, hbegin]
    rfl

/-- How an operation ends: it is settled from the beginning, or the answer to its ticket is handed
in. -/
lemma act_carryOut_cases (today : Date) (s : Session) (op : Operation) (answer : Service.Answer) :
    (∃ outcome s', op.begin today s = (.settled outcome, s') ∧
      s.act today (.carryOut op answer) =
        ({ action := .carryOut op answer, outcome? := some outcome }, s')) ∨
    ∃ ticket s', op.begin today s = (.issued ticket, s') ∧
      s.act today (.carryOut op answer) =
        ({ action := .carryOut op answer
           issued? := some ticket
           answered? := some ticket
           outcome? := some (s'.complete today ticket answer).1 },
          (s'.complete today ticket answer).2) := by
  rcases hbegin : op.begin today s with ⟨ticket | outcome, s'⟩
  · refine Or.inr ⟨ticket, s', rfl, ?_⟩
    simp only [act, Operation.turn_eq_finish, hbegin]
    rfl
  · refine Or.inl ⟨outcome, s', rfl, ?_⟩
    simp only [act, Operation.turn_eq_finish, hbegin]
    rfl

/-! ### Runs -/

/-- The tickets that were issued, latest first. -/
def tickets (trace : List Event) : List Ticket := trace.filterMap Event.issued?

/-- Answers are handed in to tickets that were issued before. -/
def Action.Allowed (trace : List Event) : Action → Prop
  | complete ticket _ => ticket ∈ tickets trace
  | _ => True

instance (trace : List Event) : (action : Action) → Decidable (action.Allowed trace)
  | .complete ticket _ => inferInstanceAs (Decidable (ticket ∈ tickets trace))
  | .type _ | .edit | .onView _ | .begin _ | .carryOut _ _ => .isTrue trivial

/-- What has happened to a session, latest first, and what has become of it. -/
inductive Run (start : Session) : List Event → Session → Prop where
  | nil : Run start [] start
  | cons {trace : List Event} {s : Session} (today : Date) (action : Action)
      (run : Run start trace s) (allowed : action.Allowed trace) :
      Run start ((s.act today action).1 :: trace) (s.act today action).2

/-- What each action of a kind preserves, a run of such actions preserves. -/
lemma Run.invariant_of {P : Action → Prop} {I : Session → Prop} {start s : Session}
    {trace : List Event} (run : Run start trace s) (hactions : ∀ e ∈ trace, P e.action)
    (hstart : I start) (hact : ∀ today s action, P action → I s → I (s.act today action).2) :
    I s := by
  induction run with
  | nil => exact hstart
  | cons today action _ _ ih =>
    rw [List.forall_mem_cons, act_action] at hactions
    exact hact today _ action hactions.1 (ih hactions.2)

/-- What each action preserves, a run preserves. -/
lemma Run.invariant {I : Session → Prop} {start s : Session} {trace : List Event}
    (run : Run start trace s) (hstart : I start)
    (hact : ∀ today s action, I s → I (s.act today action).2) : I s :=
  run.invariant_of (P := fun _ => True) (fun _ _ => trivial) hstart fun today s action _ =>
    hact today s action

end Session

end CronHeatMap
