import CronHeatMap.Session
import Mathlib.Tactic.Common

/-!
# What the operations of a session do

One statement for each operation says everything it can do: `prepare_cases`, `begin_cases` and
`beginNavigation_cases` list the endings of the operations that begin a request,
`complete_of_seq_eq` and `complete_of_seq_ne` tell what handing in an answer does. Later proofs go by
these and do not look into the operations.
-/

namespace CronHeatMap

/-! ### Outcomes of answers -/

/-- The outcome is the one that an answer leads to when it is applied. -/
def Outcome.Reports (outcome : Outcome) : Service.Answer → Prop
  | .ok (.rows _) => ∃ report, outcome = .drawn report
  | .ok (.rejected rejection) => outcome = .rejected rejection.fieldErrors
  | .error error => outcome = .failed error.alert

namespace Outcome

/-- The outcome is one that an answer leads to. -/
def IsAnswer : Outcome → Prop
  | drawn _ | rejected _ | failed _ => True
  | _ => False

variable {outcome : Outcome} {answer : Service.Answer}

lemma Reports.isAnswer (h : outcome.Reports answer) : outcome.IsAnswer := by
  match answer with
  | .ok (.rows _) =>
    obtain ⟨_, rfl⟩ := h
    trivial
  | .ok (.rejected _) =>
    cases h
    trivial
  | .error _ =>
    cases h
    trivial

lemma IsAnswer.ne_ignored (h : outcome.IsAnswer) : outcome ≠ .ignored := by
  rintro rfl
  exact h

lemma IsAnswer.ne_stale (h : outcome.IsAnswer) : outcome ≠ .stale := by
  rintro rfl
  exact h

lemma IsAnswer.ne_cleared (h : outcome.IsAnswer) : outcome ≠ .cleared := by
  rintro rfl
  exact h

end Outcome

namespace Session

variable {s : Session} {today : Date} {ticket : Ticket} {answer : Service.Answer}

/-! ### Handing in answers -/

/-- Applying an answer changes what is on display, and nothing else. -/
lemma apply_eq (today : Date) (q : Query) (s : Session) (answer : Service.Answer) :
    ∃ errors alert mode view,
      (s.apply today q answer).2 = { s with errors, alert, mode, view } := by
  match answer with
  | .ok (.rows _) => exact ⟨_, _, _, _, rfl⟩
  | .ok (.rejected _) => exact ⟨_, _, _, _, rfl⟩
  | .error _ => exact ⟨_, _, _, _, rfl⟩

lemma apply_reports (today : Date) (q : Query) (s : Session) (answer : Service.Answer) :
    (s.apply today q answer).1.Reports answer := by
  match answer with
  | .ok (.rows _) => exact ⟨_, rfl⟩
  | .ok (.rejected _) => rfl
  | .error _ => rfl

lemma complete_of_seq_eq (h : ticket.seq = s.issued) :
    s.complete today ticket answer =
      { s with submitEnabled := true }.apply today ticket.query answer := by
  simp only [complete, h, if_true]

lemma complete_of_seq_ne (h : ticket.seq ≠ s.issued) :
    s.complete today ticket answer = (.stale, { s with submitEnabled := true }) := by
  simp only [complete, h, if_false]

/-- Handing in an answer changes what is on display and allows submitting, and nothing else. -/
lemma complete_eq (today : Date) (ticket : Ticket) (s : Session) (answer : Service.Answer) :
    ∃ errors alert mode view, (s.complete today ticket answer).2 =
      { s with errors, alert, mode, view, submitEnabled := true } := by
  by_cases h : ticket.seq = s.issued
  · obtain ⟨errors, alert, mode, view, heq⟩ :=
      apply_eq today ticket.query { s with submitEnabled := true } answer
    exact ⟨errors, alert, mode, view, by rw [complete_of_seq_eq h, heq]⟩
  · exact ⟨_, _, _, _, by rw [complete_of_seq_ne h]⟩

@[simp] lemma complete_issued (today : Date) (ticket : Ticket) (s : Session)
    (answer : Service.Answer) : (s.complete today ticket answer).2.issued = s.issued := by
  obtain ⟨_, _, _, _, h⟩ := complete_eq today ticket s answer
  rw [h]

@[simp] lemma complete_form (today : Date) (ticket : Ticket) (s : Session)
    (answer : Service.Answer) : (s.complete today ticket answer).2.form = s.form := by
  obtain ⟨_, _, _, _, h⟩ := complete_eq today ticket s answer
  rw [h]

@[simp] lemma complete_history (today : Date) (ticket : Ticket) (s : Session)
    (answer : Service.Answer) : (s.complete today ticket answer).2.history = s.history := by
  obtain ⟨_, _, _, _, h⟩ := complete_eq today ticket s answer
  rw [h]

@[simp] lemma complete_submitEnabled (today : Date) (ticket : Ticket) (s : Session)
    (answer : Service.Answer) : (s.complete today ticket answer).2.submitEnabled = true := by
  obtain ⟨_, _, _, _, h⟩ := complete_eq today ticket s answer
  rw [h]

/-- The answer to the latest ticket is applied. -/
lemma complete_isAnswer (h : ticket.seq = s.issued) (today : Date) (answer : Service.Answer) :
    (s.complete today ticket answer).1.IsAnswer := by
  rw [complete_of_seq_eq h]
  exact (apply_reports ..).isAnswer

/-- No answer clears the display. -/
lemma complete_ne_cleared (today : Date) (ticket : Ticket) (s : Session)
    (answer : Service.Answer) : (s.complete today ticket answer).1 ≠ .cleared := by
  by_cases h : ticket.seq = s.issued
  · exact (complete_isAnswer h today answer).ne_cleared
  · simp [complete_of_seq_ne h]

/-! ### Beginning requests -/

/-- The ways in which preparing a request can end: the date is refused, there is nothing to ask, or
a ticket is issued. -/
lemma prepare_cases (today : Date) (push : Bool) (s : Session) :
    (∃ error, DateRule.check s.form.date today.year = some error ∧
      s.prepare today push =
        (.settled (.invalid error), { s with errors := [error], alert := none }.edit)) ∨
    (DateRule.check s.form.date today.year = none ∧ s.form.isEmpty = true ∧
      s.prepare today push = (.settled .ignored,
        { s with
          errors := []
          alert := none
          history := if push then s.history.visitRoot else s.history })) ∨
    (DateRule.check s.form.date today.year = none ∧ s.form.isEmpty = false ∧
      s.prepare today push = (.issued { seq := s.issued + 1, query := s.form },
        { s with
          errors := []
          alert := none
          history := if push then s.history.visit s.form else s.history
          submitEnabled := false
          issued := s.issued + 1 })) := by
  cases hdate : DateRule.check s.form.date today.year with
  | some error =>
    refine Or.inl ⟨error, rfl, ?_⟩
    simp only [prepare, hdate]
  | none =>
    refine Or.inr ?_
    cases hempty : s.form.isEmpty with
    | true =>
      refine Or.inl ⟨rfl, rfl, ?_⟩
      cases push <;> simp [prepare, hdate, hempty, recordEmpty]
    | false =>
      refine Or.inr ⟨rfl, rfl, ?_⟩
      cases push <;> simp [prepare, hdate, hempty, recordForm, issue]

lemma begin_of_disabled (h : s.submitEnabled = false) (push : Bool) :
    s.begin today push = (.settled .busy, s) := by
  simp [begin, h]

lemma begin_of_enabled (h : s.submitEnabled = true) (push : Bool) :
    s.begin today push = s.prepare today push := by
  simp [begin, h]

/-- Beginning a submission goes by the switch alone: the session is busy, or a request is prepared. -/
lemma begin_cases (today : Date) (push : Bool) (s : Session) :
    (s.submitEnabled = false ∧ s.begin today push = (.settled .busy, s)) ∨
    (s.submitEnabled = true ∧ s.begin today push = s.prepare today push) := by
  cases henabled : s.submitEnabled with
  | true => exact Or.inr ⟨rfl, begin_of_enabled henabled push⟩
  | false => exact Or.inl ⟨rfl, begin_of_disabled henabled push⟩

/-- Preparing a request settles that there is nothing to ask or that the date is refused, and leaves
the switch for submitting as it is. -/
lemma prepare_settled {push : Bool} {outcome : Outcome} {s' : Session}
    (hprepare : s.prepare today push = (.settled outcome, s')) :
    (outcome = .ignored ∨ ∃ error, outcome = .invalid error) ∧
      s'.submitEnabled = s.submitEnabled := by
  rcases prepare_cases today push s with ⟨error, -, heq⟩ | ⟨-, -, heq⟩ | ⟨-, -, heq⟩
  · cases heq.symm.trans hprepare
    exact ⟨Or.inr ⟨error, rfl⟩, rfl⟩
  · cases heq.symm.trans hprepare
    exact ⟨Or.inl rfl, rfl⟩
  · cases heq.symm.trans hprepare

/-- Beginning a submission may also settle that the session is busy, but only while submitting is
disabled. -/
lemma begin_settled {push : Bool} {outcome : Outcome} {s' : Session}
    (hbegin : s.begin today push = (.settled outcome, s')) :
    (outcome = .busy ∧ s.submitEnabled = false ∨ outcome = .ignored ∨
        ∃ error, outcome = .invalid error) ∧
      s'.submitEnabled = s.submitEnabled := by
  rcases begin_cases today push s with ⟨hdisabled, heq⟩ | ⟨-, heq⟩
  · cases heq.symm.trans hbegin
    exact ⟨Or.inl ⟨rfl, hdisabled⟩, rfl⟩
  · obtain ⟨houtcome, hswitch⟩ := prepare_settled (heq.symm.trans hbegin)
    exact ⟨Or.inr houtcome, hswitch⟩

lemma begin_form (today : Date) (push : Bool) (s : Session) :
    (s.begin today push).2.form = s.form := by
  rcases begin_cases today push s with ⟨-, hbegin⟩ | ⟨-, hbegin⟩
  · rw [hbegin]
  · rw [hbegin]
    rcases prepare_cases today push s with ⟨error, -, heq⟩ | ⟨-, -, heq⟩ | ⟨-, -, heq⟩
    · rw [heq]
      rfl
    · rw [heq]
    · rw [heq]

/-- Going to an entry with a query. -/
lemma beginNavigation_of_state {d : History.Direction} {h : History} {q : Query}
    (hstep : s.history.step? d = some h) (hstate : h.current.state = some q) :
    s.beginNavigation today d =
      if q.isEmpty then (.settled .cleared, { s with history := h, form := q }.clear)
      else { s with history := h, form := q }.prepare today false := by
  simp only [beginNavigation, hstep, beginReplay, hstate]

/-- The ways in which going to another entry can begin: there is no such entry, the entry has no
query, its query has no expressions, or its query is prepared for a request. -/
lemma beginNavigation_cases (today : Date) (d : History.Direction) (s : Session) :
    (s.history.step? d = none ∧ s.beginNavigation today d = (.settled .ignored, s)) ∨
    ∃ h, s.history.step? d = some h ∧
      ((h.current.state = none ∧
          s.beginNavigation today d = (.settled .ignored, { s with history := h })) ∨
        ∃ q, h.current.state = some q ∧
          ((q.isEmpty = true ∧ s.beginNavigation today d =
              (.settled .cleared, { s with history := h, form := q }.clear)) ∨
            (q.isEmpty = false ∧ s.beginNavigation today d =
              { s with history := h, form := q }.prepare today false))) := by
  cases hstep : s.history.step? d with
  | none => exact Or.inl ⟨rfl, by simp only [beginNavigation, hstep]⟩
  | some h =>
    refine Or.inr ⟨h, rfl, ?_⟩
    cases hstate : h.current.state with
    | none => exact Or.inl ⟨rfl, by simp only [beginNavigation, hstep, beginReplay, hstate]⟩
    | some q =>
      refine Or.inr ⟨q, rfl, ?_⟩
      rw [beginNavigation_of_state hstep hstate]
      cases hempty : q.isEmpty with
      | true => exact Or.inl ⟨rfl, by simp⟩
      | false => exact Or.inr ⟨rfl, by simp⟩

end Session

end CronHeatMap
