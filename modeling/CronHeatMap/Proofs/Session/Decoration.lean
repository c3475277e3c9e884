import CronHeatMap.Proofs.HeatMap.Basic
import CronHeatMap.Proofs.History
import CronHeatMap.Proofs.Session.Tickets

/-!
# The decoration of the form

Field errors and an alert decorate the form, next to the mode that says whether the form is shown at
all. Preparing a request takes off what is left from before, so that what an operation leaves is
decided by its outcome alone (`Operation.ends`). Answers that are handed in on their own do not take
anything off; hence this is about sessions that are used by whole operations.
-/

namespace CronHeatMap

/-! ### Outcomes -/

namespace HeatMap

/-- No cells are on display, and nothing is reported. -/
def ShowsNothing (h : HeatMap) : Prop := h.scene.elements = [] ∧ h.contention = []

lemma showsNothing_draw_nil (h : HeatMap) : (h.draw []).2.ShowsNothing := by
  constructor
  · rw [List.eq_nil_iff_forall_not_mem]
    intro e he
    have hkey := mem_keys_draw.1 (List.mem_map_of_mem he)
    simp at hkey
  · simp [draw, busiestFirst, Contention.summarize, Contention.stretches]

/-- Taking off the marks and letting go of the panel bring nothing back. -/
lemma ShowsNothing.release {h : HeatMap} (hh : h.ShowsNothing) :
    h.clearHighlight.unfreeze.ShowsNothing := by
  obtain ⟨helements, hcontention⟩ := hh
  obtain ⟨f, detail, -, heq⟩ := unfreeze_eq h.clearHighlight
  rw [heq]
  exact ⟨by simp [clearHighlight, Scene.clearHighlights, helements], hcontention⟩

end HeatMap

/-- The decoration that is left of a request which was prepared in a mode and has ended with an
outcome. It ends neither for want of an answer nor with an answer that is dropped. -/
def Outcome.Decorates (mode : Mode) (s : Session) : Outcome → Prop
  | .busy | .stale => False
  | .ignored => s.errors = [] ∧ s.alert = none ∧ s.mode = mode
  | .invalid error => s.errors = [error] ∧ s.alert = none ∧ s.mode = .edit
  | .drawn _ => s.errors = [] ∧ s.alert = none ∧ s.mode = .rendered
  | .rejected errors => s.errors = errors ∧ s.alert = none ∧ s.mode = .edit
  | .failed alert => s.errors = [] ∧ s.alert = some alert ∧ s.mode = mode
  | .cleared =>
    s.errors = [] ∧ s.alert = none ∧ s.mode = .edit ∧ s.view.ShowsNothing

namespace Session

variable {s : Session} {trace : List Event} {today : Date}

/-! ### One operation -/

/-- The answer to the latest ticket, when nothing decorates the form. -/
lemma complete_decorates {ticket : Ticket} (hseq : ticket.seq = s.issued) (herrors : s.errors = [])
    (halert : s.alert = none) (today : Date) (answer : Service.Answer) :
    (s.complete today ticket answer).1.Decorates s.mode (s.complete today ticket answer).2 := by
  rw [complete_of_seq_eq hseq]
  match answer with
  | .ok (.rows _) => exact ⟨herrors, halert, rfl⟩
  | .ok (.rejected _) => exact ⟨rfl, halert, rfl⟩
  | .error _ => exact ⟨herrors, rfl, rfl⟩

lemma prepare_decorates (today : Date) (push : Bool) (s : Session) (answer : Service.Answer) :
    ((finish today (s.prepare today push)).resolve answer).1.Decorates s.mode
      ((finish today (s.prepare today push)).resolve answer).2 := by
  rcases prepare_cases today push s with ⟨error, -, heq⟩ | ⟨-, -, heq⟩ | ⟨-, -, heq⟩
  · rw [heq]
    exact ⟨rfl, rfl, rfl⟩
  · rw [heq]
    exact ⟨rfl, rfl, rfl⟩
  · rw [heq]
    exact complete_decorates rfl rfl rfl today answer

/-- Something is asked, or the date is refused, if there are expressions. -/
lemma prepare_ne_ignored (hempty : s.form.isEmpty = false) (today : Date) (push : Bool)
    (answer : Service.Answer) :
    ((finish today (s.prepare today push)).resolve answer).1 ≠ .ignored := by
  rcases prepare_cases today push s with ⟨error, -, heq⟩ | ⟨-, hempty', -⟩ | ⟨-, -, heq⟩
  · rw [heq]
    exact Outcome.noConfusion
  · exact absurd (hempty.symm.trans hempty') Bool.false_ne_true
  · rw [heq, resolve_finish_issued]
    exact (complete_isAnswer rfl today answer).ne_ignored

lemma clear_decorates (mode : Mode) (s : Session) : Outcome.cleared.Decorates mode s.clear :=
  ⟨rfl, rfl, rfl, (HeatMap.showsNothing_draw_nil s.view).release⟩

/-- What an operation that was begun at `s` leaves when it ends with an outcome: where there was
nothing to go to, only the cursor of the history has moved; otherwise the outcome decorates the
form. -/
def Operation.Ends (s s' : Session) : Operation → Outcome → Prop
  | navigate _, .ignored => ∃ history, history.log = s.history.log ∧ s' = { s with history }
  | _, outcome => outcome.Decorates s.mode s'

lemma Operation.ends_of_decorates {s' : Session} {op : Operation} {outcome : Outcome}
    (houtcome : outcome ≠ .ignored) (hdecorates : outcome.Decorates s.mode s') :
    op.Ends s s' outcome := by
  cases op with
  | submit | load => exact hdecorates
  | navigate direction =>
    cases outcome with
    | ignored => exact absurd rfl houtcome
    | _ => exact hdecorates

lemma Operation.Ends.cases {s' : Session} {op : Operation} {outcome : Outcome}
    (hends : op.Ends s s' outcome) :
    (outcome = .ignored ∧ ∃ history, s' = { s with history }) ∨ outcome.Decorates s.mode s' := by
  cases op with
  | submit | load => exact Or.inr hends
  | navigate direction =>
    cases outcome with
    | ignored =>
      obtain ⟨history, -, rfl⟩ := hends
      exact Or.inl ⟨rfl, history, rfl⟩
    | _ => exact Or.inr hends

/-- When submitting is enabled, the outcome of an operation decides what decorates the form. -/
lemma Operation.ends (henabled : s.submitEnabled = true) (today : Date) (op : Operation)
    (answer : Service.Answer) :
    op.Ends s ((op.turn today s).resolve answer).2 ((op.turn today s).resolve answer).1 := by
  rw [turn_eq_finish]
  cases op with
  | submit =>
    rw [begin, begin_of_enabled henabled]
    exact prepare_decorates today true s answer
  | load location =>
    let form := Query.ofLocation location
    let history := (History.ofLocation location).replace (some form)
    have hbegin : (load location).begin today s =
        { s with form, history }.prepare today true :=
      begin_of_enabled (s := { s with form, history }) henabled true
    rw [hbegin]
    exact prepare_decorates today true { s with form, history } answer
  | navigate direction =>
    -- The cases of navigating itself, as it matters where the step of the history has led.
    rw [begin]
    rcases beginNavigation_cases today direction s with
      ⟨-, heq⟩ | ⟨h, hstep, ⟨-, heq⟩ | ⟨q, -, ⟨-, heq⟩ | ⟨hempty, heq⟩⟩⟩
    · rw [heq]
      exact ⟨s.history, rfl, rfl⟩
    · rw [heq]
      exact ⟨h, History.log_of_step?_eq_some hstep, rfl⟩
    · rw [heq]
      exact clear_decorates s.mode { s with history := h, form := q }
    · rw [heq]
      refine ends_of_decorates ?_ ?_
      · exact prepare_ne_ignored (s := { s with history := h, form := q }) hempty today false answer
      · exact prepare_decorates today false { s with history := h, form := q } answer

/-- When submitting is enabled, it is so again after an operation. -/
lemma Operation.submitEnabled_resolve (henabled : s.submitEnabled = true) (today : Date)
    (op : Operation) (answer : Service.Answer) :
    ((op.turn today s).resolve answer).2.submitEnabled = true := by
  rw [turn_eq_finish]
  rcases hbegin : op.begin today s with ⟨ticket | outcome, s'⟩
  · exact complete_submitEnabled ..
  · rcases Operation.begin_settled hbegin with ⟨-, hswitch⟩ | ⟨-, hswitch⟩
    · exact hswitch
    · exact hswitch.trans henabled

/-! ### Runs of whole operations -/

/-- The decoration of the form fits the mode, and a request can be submitted. -/
structure Decorated (s : Session) : Prop where
  submitEnabled : s.submitEnabled = true
  /-- Field errors and an alert are not shown at once. -/
  exclusive : s.errors = [] ∨ s.alert = none
  /-- Field errors are shown next to the form. -/
  editing : s.errors ≠ [] → s.mode = .edit

lemma decorated_new (today₀ : Date) (zone : Zone) : (new today₀ zone).Decorated where
  submitEnabled := rfl
  exclusive := Or.inl rfl
  editing _ := rfl

/-- A session that is decorated by an outcome is decorated as it should be. -/
lemma Decorated.of_decorates {mode : Mode} {outcome : Outcome}
    (hdecorates : outcome.Decorates mode s) (henabled : s.submitEnabled = true) : s.Decorated := by
  cases outcome with
  | busy | stale => exact hdecorates.elim
  | ignored | drawn | failed =>
    exact ⟨henabled, Or.inl hdecorates.1, fun herrors => absurd hdecorates.1 herrors⟩
  | invalid | rejected => exact ⟨henabled, Or.inr hdecorates.2.1, fun _ => hdecorates.2.2⟩
  | cleared => exact ⟨henabled, Or.inl hdecorates.1, fun _ => hdecorates.2.2.1⟩

lemma Decorated.act (hs : s.Decorated) {action : Action} (hwhole : action.Whole) (today : Date) :
    (s.act today action).2.Decorated := by
  cases action with
  | type edit =>
    obtain ⟨form, heq⟩ := edit.apply_eq s
    simp only [Session.act, heq]
    exact ⟨hs.submitEnabled, hs.exclusive, hs.editing⟩
  | edit => exact ⟨hs.submitEnabled, hs.exclusive, fun _ => rfl⟩
  | onView f => exact ⟨hs.submitEnabled, hs.exclusive, hs.editing⟩
  | begin push => exact hwhole.elim
  | complete ticket answer => exact hwhole.elim
  | carryOut op answer =>
    have henabled := op.submitEnabled_resolve hs.submitEnabled today answer
    rcases (op.ends hs.submitEnabled today answer).cases with ⟨-, history, heq⟩ | hdecorates
    · rw [show (s.act today (.carryOut op answer)).2 = { s with history } from heq]
      exact ⟨hs.submitEnabled, hs.exclusive, hs.editing⟩
    · exact .of_decorates hdecorates henabled

lemma Run.decorated {today₀ : Date} {zone : Zone} (run : Run (.new today₀ zone) trace s)
    (hwhole : ∀ e ∈ trace, e.action.Whole) : s.Decorated :=
  run.invariant_of hwhole (decorated_new today₀ zone) fun today _ _ haction hs =>
    hs.act haction today

/-- An action that is not split finds no request under way. -/
lemma Decorated.outcome_act (hs : s.Decorated) {action : Action} (hwhole : action.Whole)
    (today : Date) :
    (s.act today action).1.outcome? ≠ some .busy ∧ (s.act today action).1.outcome? ≠ some .stale := by
  cases action with
  | type | edit | onView => simp [Session.act]
  | begin push => exact hwhole.elim
  | complete ticket answer => exact hwhole.elim
  | carryOut op answer =>
    have hends := op.ends hs.submitEnabled today answer
    generalize houtcome : ((op.turn today s).resolve answer).1 = outcome at hends
    have hact : (s.act today (.carryOut op answer)).1.outcome? = some outcome :=
      congrArg some houtcome
    rw [hact]
    rcases hends.cases with ⟨rfl, -⟩ | hdecorates
    · exact ⟨by simp, by simp⟩
    · constructor
      · rintro ⟨⟩
        exact hdecorates
      · rintro ⟨⟩
        exact hdecorates

/-- In every run of whole operations, submitting is enabled, field errors and an alert are not shown
at once, and field errors are shown next to the form only; no operation finds the session busy or has
its answer dropped, and the outcome of the next operation decides what is left of it, whatever the
service does. -/
theorem decoration_fits_mode {today₀ : Date} {zone : Zone}
    (run : Run (.new today₀ zone) trace s) (hwhole : ∀ e ∈ trace, e.action.Whole) :
    s.Decorated ∧
      (∀ e ∈ trace, e.outcome? ≠ some .busy ∧ e.outcome? ≠ some .stale) ∧
      ∀ (σ : Type) (service : Query → σ → Service.Answer × σ) (state : σ) today (op : Operation)
        outcome s', ((op.turn today s).run service state).1 = (outcome, s') →
          s'.submitEnabled = true ∧ op.Ends s s' outcome := by
  have hs := run.decorated hwhole
  refine ⟨hs, fun e he => ?_, fun σ service state today op outcome s' hresult => ?_⟩
  · obtain ⟨later, earlier, rfl⟩ := List.append_of_mem he
    obtain ⟨s₀, today, action, run₀, -, rfl⟩ := run.act_of_mem rfl
    rw [List.forall_mem_append, List.forall_mem_cons, act_action] at hwhole
    exact (run₀.decorated hwhole.2.2).outcome_act hwhole.2.1 today
  · obtain ⟨answer, heq⟩ := Turn.exists_run_eq_resolve service state (op.turn today s)
    have hresolve : (op.turn today s).resolve answer = (outcome, s') := heq.symm.trans hresult
    have henabled := op.submitEnabled_resolve hs.submitEnabled today answer
    have hends := op.ends hs.submitEnabled today answer
    rw [hresolve] at henabled hends
    exact ⟨henabled, hends⟩

/-- An alert is shown when a date is refused. -/
theorem decoration_fits_mode_refused :
    ∃ trace s error s', Run (.new .unixEpoch .utc) trace s ∧ (∀ e ∈ trace, e.action.Whole) ∧
      s.alert.isSome = true ∧
      ((Operation.submit.turn .unixEpoch s).run (fun _ n => (.ok (.rows []), n + 1)) 0).1 =
        (.invalid error, s') ∧
      s'.submitEnabled = true ∧ s'.errors = [error] ∧ s'.alert = none ∧ s'.mode = .edit := by
  have loaded := (Run.nil : Run (.new .unixEpoch .utc) [] _).cons .unixEpoch
    (.carryOut (.load "/?expressions=a&date=") (.error .unreachable)) trivial
  have dated := loaded.cons .unixEpoch (.type (.setDate "bah")) trivial
  obtain ⟨-, -, hends⟩ := decoration_fits_mode dated (by simp [Action.Whole])
  obtain ⟨henabled, herrors, halert, hmode⟩ := hends Nat (fun _ n => (.ok (.rows []), n + 1)) 0
    .unixEpoch .submit
    (.invalid { field := .date, value := "bah", message := DateRule.message .malformed }) _ rfl
  exact ⟨_, _, _, _, dated, by simp [Action.Whole], rfl, rfl, henabled, herrors, halert, hmode⟩

end Session

end CronHeatMap
