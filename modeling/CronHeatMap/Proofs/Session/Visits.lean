import CronHeatMap.Proofs.History
import CronHeatMap.Proofs.Session.Run

/-!
# The history of a session

What recording submissions and moving the cursor keep of a history, every action of a session keeps,
unless it starts over at another location (`act_history`): neither answers nor navigation write to the
log. So a history stays coherent however the session is used (`act_coherent`), since it is coherent
wherever it starts.
-/

namespace CronHeatMap.Session

variable {s : Session} {I : History → Prop}

/-! ### One action -/

lemma prepare_history (hI : History.Kept I) (hs : I s.history) (today : Date) (push : Bool) :
    I (s.prepare today push).2.history := by
  rcases prepare_cases today push s with ⟨error, -, heq⟩ | ⟨-, -, heq⟩ | ⟨-, -, heq⟩
  · rw [heq]
    exact hs
  · rw [heq]
    cases push with
    | true => exact hI.visitRoot hs
    | false => exact hs
  · rw [heq]
    cases push with
    | true => exact hI.visit s.form hs
    | false => exact hs

lemma begin_history (hI : History.Kept I) (hs : I s.history) (today : Date) (push : Bool) :
    I (s.begin today push).2.history := by
  rcases begin_cases today push s with ⟨-, heq⟩ | ⟨-, heq⟩
  · rw [heq]
    exact hs
  · rw [heq]
    exact prepare_history hI hs today push

/-- Going to another entry moves the cursor, and leaves the log as it is. -/
lemma history_beginNavigation (today : Date) (d : History.Direction) (s : Session) :
    (s.beginNavigation today d).2.history = s.history.move d := by
  rw [History.move]
  rcases beginNavigation_cases today d s with
    ⟨hstep, heq⟩ | ⟨h, hstep, ⟨-, heq⟩ | ⟨q, -, ⟨-, heq⟩ | ⟨-, heq⟩⟩⟩
  · rw [heq, hstep]
    rfl
  · rw [heq, hstep]
    rfl
  · rw [heq, hstep]
    rfl
  · rw [heq, hstep]
    rcases prepare_cases today false { s with history := h, form := q } with
      ⟨error, -, heq⟩ | ⟨-, -, heq⟩ | ⟨-, -, heq⟩ <;> rw [heq] <;> rfl

/-- The answer to a ticket does not touch the history. -/
@[simp] lemma history_resolve_finish (today : Date) (result : Submission × Session)
    (answer : Service.Answer) :
    ((finish today result).resolve answer).2.history = result.2.history := by
  obtain ⟨ticket | outcome, s'⟩ := result
  · exact complete_history ..
  · rfl

/-- A session that starts over at a location has the query in its form that is there. -/
lemma form_load (today : Date) (location : String) (s : Session) (answer : Service.Answer) :
    ((s.load today location).resolve answer).2.form = Query.ofLocation location := by
  have hform : (s.beginLoad today location).2.form = Query.ofLocation location := begin_form ..
  rw [load]
  rcases hbegin : s.beginLoad today location with ⟨ticket | outcome, s'⟩
  · rw [hbegin] at hform
    rw [resolve_finish_issued, complete_form]
    exact hform
  · rw [hbegin] at hform
    exact hform

lemma Operation.begin_history (hI : History.Kept I) (hs : I s.history) (today : Date)
    (op : Operation) (hload : ∀ location, op = .load location →
      I ((History.ofLocation location).replace (some (Query.ofLocation location)))) :
    I (op.begin today s).2.history := by
  cases op with
  | submit => exact Session.begin_history hI hs today true
  | load location =>
    let form := Query.ofLocation location
    let history := (History.ofLocation location).replace (some form)
    exact Session.begin_history (s := { s with form, history }) hI (hload location rfl) today true
  | navigate direction =>
    have hhistory : ((navigate direction).begin today s).2.history = s.history.move direction :=
      history_beginNavigation today direction s
    exact hI.of_log_eq hs (by rw [hhistory, History.log_move])

/-- Every action keeps what histories keep, unless it starts over where this does not hold. -/
lemma act_history (hI : History.Kept I) (hs : I s.history) (today : Date) (action : Action)
    (hload : ∀ location answer, action = .carryOut (.load location) answer →
      I ((History.ofLocation location).replace (some (Query.ofLocation location)))) :
    I (s.act today action).2.history := by
  cases action with
  | type edit =>
    obtain ⟨form, heq⟩ := edit.apply_eq s
    simpa only [act, heq] using hs
  | edit => exact hs
  | onView f => exact hs
  | begin push => exact begin_history hI hs today push
  | complete ticket answer => simpa only [act, complete_history] using hs
  | carryOut op answer =>
    simp only [act, Operation.turn_eq_finish, history_resolve_finish]
    refine op.begin_history hI hs today fun location hop => ?_
    subst hop
    exact hload location answer rfl

lemma Operation.begin_coherent (hs : s.history.Coherent) (today : Date) (op : Operation) :
    (op.begin today s).2.history.Coherent :=
  op.begin_history History.kept_coherent hs today fun location _ => .loaded location

/-- Every action keeps the history coherent. -/
lemma act_coherent (hs : s.history.Coherent) (today : Date) (action : Action) :
    (s.act today action).2.history.Coherent :=
  act_history History.kept_coherent hs today action fun location _ _ => .loaded location

/-! ### Runs -/

lemma Run.coherent {today₀ : Date} {zone : Zone} {trace : List Event}
    (run : Run (.new today₀ zone) trace s) : s.history.Coherent :=
  run.invariant (I := fun s => s.history.Coherent) .root fun today _ action hs =>
    act_coherent hs today action

/-- In every run of a new session, the history is coherent, and going back or forward does no more
than move the cursor to a neighbouring entry. -/
theorem history_coherent {today₀ : Date} {zone : Zone} {trace : List Event}
    (run : Run (.new today₀ zone) trace s) :
    s.history.cursor < s.history.log.length ∧ s.history.Coherent ∧
      ∀ today answer,
        (((s.navigate today .back).resolve answer).2.history.log = s.history.log ∧
          ((s.navigate today .back).resolve answer).2.history.cursor = s.history.cursor - 1) ∧
        ((s.navigate today .forward).resolve answer).2.history.log = s.history.log ∧
          ((s.navigate today .forward).resolve answer).2.history.cursor =
            min (s.history.cursor + 1) (s.history.log.length - 1) := by
  refine ⟨s.history.cursor_lt, run.coherent, fun today answer => ?_⟩
  simp only [navigate, history_resolve_finish, history_beginNavigation, History.log_move,
    History.cursor_move_back, History.cursor_move_forward, true_and]

/-- A query is submitted, answered, and left for the root. -/
theorem history_coherent_back_to_root :
    ∃ trace s, Run (.new .unixEpoch .utc) trace s ∧
      s.history.log.map Entry.location = ["/", "?expressions=a&date=", "/"] ∧
      s.history.Coherent ∧ ((s.navigate .unixEpoch .back).resolve (.ok (.rows []))).2.history.log =
        s.history.log := by
  have typed := (Run.nil : Run (.new .unixEpoch .utc) [] _).cons .unixEpoch
    (.type (.setExpressions "a")) trivial
  have begun := typed.cons .unixEpoch (.begin true) trivial
  have answered := begun.cons .unixEpoch
    (.complete { seq := 1, query := { expressions := "a" } } (.error .unreachable)) (by decide)
  have cleared := answered.cons .unixEpoch (.type .clearExpressions) trivial
  have left := cleared.cons .unixEpoch (.begin true) trivial
  obtain ⟨-, hcoherent, hmoves⟩ := history_coherent left
  exact ⟨_, _, left, by decide, hcoherent, (hmoves .unixEpoch (.ok (.rows []))).1.1⟩

end CronHeatMap.Session
