import CronHeatMap.Proofs.Session.Tickets

/-!
# What the service is asked

An operation asks the service at most once, and whether it does can be told from its outcome: it has
asked if the outcome is one that an answer leads to (`Operation.exchange_valid`). What it asks is the
query of the form, whose date has been checked on that day, wherever the query in the form comes from.
This holds of a single operation in any state, and so of all that a session ever asks its service
(`one_valid_request`).
-/

namespace CronHeatMap

/-- A service that goes by another one, and keeps the queries that it is asked, latest first. -/
def Service.recording {σ : Type} (service : Query → σ → Answer × σ) (q : Query)
    (state : List Query × σ) : Answer × (List Query × σ) :=
  let (answer, s) := service q state.2
  (answer, (q :: state.1, s))

/-- Recording changes nothing, and shows what an operation asks. -/
lemma Turn.run_recording {α σ : Type} (service : Query → σ → Service.Answer × σ)
    (queries : List Query) (state : σ) (t : Turn α) :
    t.run (Service.recording service) (queries, state) =
      ((t.run service state).1, (t.asked?.toList ++ queries, (t.run service state).2)) := by
  cases t <;> rfl

namespace Session

variable {σ : Type} {service : Query → σ → Service.Answer × σ} {s start : Session}
  {state state₀ : σ} {today : Date}

/-! ### One operation -/

/-- A ticket is for the query of the form, whose date is not refused. What is settled without a
ticket does not count as an answer. -/
def Requests (today : Date) (s : Session) : Submission → Prop
  | .issued ticket => ticket.query = s.form ∧ DateRule.check ticket.query.date today.year = none
  | .settled outcome => ¬ outcome.IsAnswer

lemma prepare_requests (today : Date) (push : Bool) (s : Session) :
    (s.prepare today push).2.Requests today (s.prepare today push).1 := by
  rcases prepare_cases today push s with ⟨error, -, heq⟩ | ⟨-, -, heq⟩ | ⟨hdate, -, heq⟩
  · rw [heq]
    exact id
  · rw [heq]
    exact id
  · rw [heq]
    exact ⟨rfl, hdate⟩

/-- Whatever an operation has put into the form is checked before it is asked. -/
lemma Operation.begin_requests (today : Date) (s : Session) (op : Operation) :
    (op.begin today s).2.Requests today (op.begin today s).1 := by
  obtain ⟨form, history, ⟨outcome, rfl | rfl, heq⟩ | heq | ⟨push, -, heq⟩⟩ :=
    op.begin_cases today s
  all_goals rw [heq]
  · exact id
  · exact id
  · exact id
  · exact prepare_requests today push { s with form, history }

/-- What has passed between an operation and the service. -/
structure Exchange where
  /-- The day of the operation. -/
  day : Date
  /-- The form by the time the service is asked. -/
  form : Query
  /-- What the service was asked, latest first. -/
  asked : List Query
  outcome : Outcome

/-- Carries out an operation. -/
def Operation.exchange (service : Query → σ → Service.Answer × σ) (today : Date) (s : Session)
    (state : σ) (op : Operation) : Exchange × Session × σ :=
  let ((outcome, s'), (asked, state')) :=
    (op.turn today s).run (Service.recording service) ([], state)
  ({ day := today, form := (op.begin today s).2.form, asked, outcome }, s', state')

/-- The service was asked as it should be. -/
structure Exchange.Valid (x : Exchange) : Prop where
  once : x.asked.length ≤ 1
  /-- It was asked exactly if the outcome is one that an answer leads to. -/
  asked_iff : x.asked ≠ [] ↔ x.outcome.IsAnswer
  /-- It was asked for the form. -/
  form_eq : ∀ q ∈ x.asked, q = x.form
  /-- The date was not refused on that day. -/
  date_valid : ∀ q ∈ x.asked, DateRule.check q.date x.day.year = none

/-- Whatever the session and the service are like. -/
lemma Operation.exchange_valid (service : Query → σ → Service.Answer × σ) (today : Date)
    (s : Session) (state : σ) (op : Operation) : (op.exchange service today s state).1.Valid := by
  have hrequests := op.begin_requests today s
  rw [exchange, Turn.run_recording, turn_eq_finish, List.append_nil]
  rcases hbegin : op.begin today s with ⟨ticket | outcome, s'⟩
  · rw [hbegin] at hrequests
    obtain ⟨hquery, hdate⟩ := hrequests
    have hseq : ticket.seq = s'.issued := seq_eq_of_begin hbegin
    rw [asked?_finish_issued, Option.toList_some]
    constructor
    · exact Nat.le_refl 1
    · exact iff_of_true (List.cons_ne_nil _ _) (complete_isAnswer hseq today _)
    · rwa [List.forall_mem_singleton]
    · rwa [List.forall_mem_singleton]
  · rw [hbegin] at hrequests
    rw [asked?_finish_settled, Option.toList_none]
    constructor
    · exact Nat.zero_le 1
    · exact iff_of_false (absurd rfl) hrequests
    · exact List.forall_mem_nil _
    · exact List.forall_mem_nil _

/-! ### Whole sessions -/

/-- What has passed between a session and its service, latest first, and what has become of them.
Meanwhile the form is edited and the display is worked on. -/
inductive Served (service : Query → σ → Service.Answer × σ) (start : Session) (state₀ : σ) :
    List Exchange → Session → σ → Prop where
  | nil : Served service start state₀ [] start state₀
  | type {xs : List Exchange} {s : Session} {state : σ} (edit : FormEdit)
      (served : Served service start state₀ xs s state) :
      Served service start state₀ xs (edit.apply s) state
  | edit {xs : List Exchange} {s : Session} {state : σ}
      (served : Served service start state₀ xs s state) :
      Served service start state₀ xs s.edit state
  | onView {xs : List Exchange} {s : Session} {state : σ} (f : HeatMap → HeatMap)
      (served : Served service start state₀ xs s state) :
      Served service start state₀ xs (s.onView f) state
  | carryOut {xs : List Exchange} {s : Session} {state : σ} (today : Date) (op : Operation)
      (served : Served service start state₀ xs s state) :
      Served service start state₀ ((op.exchange service today s state).1 :: xs)
        (op.exchange service today s state).2.1 (op.exchange service today s state).2.2

/-- In a new session, whatever the service is like: each operation asks it at most once, and exactly
if its outcome is one that an answer leads to. What it asks is the query that is then in the form,
with a date that is not refused on that day. -/
theorem one_valid_request {today₀ : Date} {zone : Zone} {xs : List Exchange}
    (served : Served service (.new today₀ zone) state₀ xs s state) : ∀ x ∈ xs, x.Valid := by
  induction served with
  | nil => exact List.forall_mem_nil _
  | type edit served ih => exact ih
  | edit served ih => exact ih
  | onView f served ih => exact ih
  | carryOut today op served ih =>
    exact List.forall_mem_cons.2 ⟨op.exchange_valid service today _ _, ih⟩

/-- The date at the location where the session starts is refused as too late, so that nothing is
asked. Ten years on, going back to this entry asks for the same query. -/
theorem one_valid_request_replayed :
    ∃ xs s n, Served (fun _ n => (.ok (.rows []), n + 1)) (.new .unixEpoch .utc) 0 xs s n ∧
      xs.map Exchange.asked =
        [[{ expressions := "a", date := "2075-01-01" }], [{ expressions := "b", date := "" }], []] ∧
      ∀ x ∈ xs, x.Valid := by
  have refused := (Served.nil : Served (fun _ n => (.ok (.rows []), n + 1))
    (.new .unixEpoch .utc) 0 [] _ _).carryOut .unixEpoch
      (.load "/?expressions=a&date=2075-01-01")
  have typed := (refused.type (.setExpressions "b")).type (.setDate "")
  have drawn := typed.carryOut .unixEpoch .submit
  have back := drawn.carryOut ⟨1980, 1, 1, by decide⟩ (.navigate .back)
  exact ⟨_, _, _, back, rfl, one_valid_request back⟩

end Session

end CronHeatMap
