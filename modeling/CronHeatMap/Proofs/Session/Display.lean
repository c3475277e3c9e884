import CronHeatMap.Proofs.HeatMap.Panel
import CronHeatMap.Proofs.Session.Run

/-!
# What a session does to its heat map

Each outcome tells what it has done to the heat map (`act_leaves`): nothing if there was nothing to
show, the release of the panel and the highlight if the form is shown again, a draw otherwise. All of
this consists of operations that a heat map has, so that what holds in every run of a heat map holds
of the heat map of a session (`Run.view_eq_after`).
-/

namespace CronHeatMap

/-- What has become of the heat map `h` when something has ended with an outcome. -/
def Outcome.Leaves (today : Date) (h h' : HeatMap) : Outcome → Prop
  | .busy | .ignored | .failed _ | .stale => h' = h
  | .invalid _ | .rejected _ => h' = h.after [.clearHighlight, .unfreeze]
  | .cleared => h' = h.after [.draw [], .clearHighlight, .unfreeze]
  | .drawn _ => ∃ (q : Query) (firings : List Firing),
      h' = h.after [.setReferenceDate q.date today, .setListing q.lines, .draw firings]

/-- What an outcome without success keeps of the heat map `h`: all of it, or all but the marks and
the panel. -/
def Outcome.Keeps (h h' : HeatMap) : Outcome → Prop
  | .busy | .ignored | .failed _ | .stale => h' = h
  | .invalid _ | .rejected _ => h.Released h'
  | .drawn _ | .cleared => True

/-- If the panel is settled, then showing the form again does no more than to take off the marks and
to let go of the panel. -/
lemma HeatMap.Settled.keeps_of_leaves {h h' : HeatMap} (hs : h.Settled) {today : Date}
    {outcome : Outcome} (hleaves : outcome.Leaves today h h') : outcome.Keeps h h' := by
  cases outcome with
  | busy | ignored | failed | stale => exact hleaves
  | invalid | rejected =>
    rw [show h' = h.clearHighlight.unfreeze from hleaves]
    exact hs.released
  | drawn | cleared => trivial

namespace Session

variable {s start : Session} {trace : List Event} {action : Action}

/-- What has become of the heat map `h` when something was begun. -/
def Submission.Leaves (today : Date) (h h' : HeatMap) : Submission → Prop
  | issued _ => h' = h
  | settled outcome => outcome.Leaves today h h'

/-! ### One action -/

lemma prepare_leaves (today : Date) (push : Bool) (s : Session) :
    (s.prepare today push).1.Leaves today s.view (s.prepare today push).2.view := by
  rcases prepare_cases today push s with ⟨error, -, heq⟩ | ⟨-, -, heq⟩ | ⟨-, -, heq⟩
  all_goals
    rw [heq]
    rfl

lemma begin_leaves (today : Date) (push : Bool) (s : Session) :
    (s.begin today push).1.Leaves today s.view (s.begin today push).2.view := by
  rcases begin_cases today push s with ⟨-, heq⟩ | ⟨-, heq⟩
  · rw [heq]
    rfl
  · rw [heq]
    exact prepare_leaves today push s

lemma Operation.begin_leaves (today : Date) (s : Session) (op : Operation) :
    (op.begin today s).1.Leaves today s.view (op.begin today s).2.view := by
  obtain ⟨form, history, ⟨outcome, rfl | rfl, heq⟩ | heq | ⟨push, -, heq⟩⟩ :=
    op.begin_cases today s
  all_goals rw [heq]
  · rfl
  · rfl
  · rfl
  · exact prepare_leaves today push { s with form, history }

lemma apply_leaves (today : Date) (q : Query) (s : Session) (answer : Service.Answer) :
    (s.apply today q answer).1.Leaves today s.view (s.apply today q answer).2.view := by
  match answer with
  | .ok (.rows firings) => exact ⟨q, firings, rfl⟩
  | .ok (.rejected _) => rfl
  | .error _ => rfl

lemma complete_leaves (today : Date) (ticket : Ticket) (s : Session) (answer : Service.Answer) :
    (s.complete today ticket answer).1.Leaves today s.view
      (s.complete today ticket answer).2.view := by
  by_cases h : ticket.seq = s.issued
  · rw [complete_of_seq_eq h]
    exact apply_leaves today ticket.query { s with submitEnabled := true } answer
  · rw [complete_of_seq_ne h]
    rfl

/-- What the outcome of an action has done to the heat map. -/
lemma act_leaves (today : Date) (s : Session) (action : Action) {outcome : Outcome}
    (houtcome : (s.act today action).1.outcome? = some outcome) :
    outcome.Leaves today s.view (s.act today action).2.view := by
  cases action with
  | type | edit | onView => cases houtcome
  | begin push =>
    have hleaves := begin_leaves today push s
    rcases act_begin_cases today s push with
      ⟨outcome', s', hbegin, hact⟩ | ⟨ticket, s', -, hact⟩
    · rw [hbegin] at hleaves
      rw [hact] at houtcome ⊢
      cases houtcome
      exact hleaves
    · rw [hact] at houtcome
      cases houtcome
  | complete ticket answer =>
    cases houtcome
    exact complete_leaves today ticket s answer
  | carryOut op answer =>
    have hleaves := op.begin_leaves today s
    rcases act_carryOut_cases today s op answer with
      ⟨outcome', s', hbegin, hact⟩ | ⟨ticket, s', hbegin, hact⟩
    · rw [hbegin] at hleaves
      rw [hact] at houtcome ⊢
      cases houtcome
      exact hleaves
    · rw [hbegin] at hleaves
      have hview : s'.view = s.view := hleaves
      rw [hact] at houtcome ⊢
      cases houtcome
      rw [← hview]
      exact complete_leaves today ticket s' answer

/-- An action without an outcome does to the heat map what it is for: showing the form releases the
panel, work on the heat map is done, and nothing else happens to it. -/
lemma view_act_of_no_outcome (today : Date) (s : Session) (action : Action)
    (houtcome : (s.act today action).1.outcome? = none) :
    (s.act today action).2.view =
      match action with
      | .edit => s.view.after [.clearHighlight, .unfreeze]
      | .onView f => f s.view
      | _ => s.view := by
  cases action with
  | type edit =>
    obtain ⟨form, heq⟩ := edit.apply_eq s
    simp only [act, heq]
  | edit => rfl
  | onView f => rfl
  | begin push =>
    have hleaves := begin_leaves today push s
    rcases act_begin_cases today s push with
      ⟨outcome, s', -, hact⟩ | ⟨ticket, s', hbegin, hact⟩
    · rw [hact] at houtcome
      cases houtcome
    · rw [hbegin] at hleaves
      rw [hact]
      exact hleaves
  | complete ticket answer => cases houtcome
  | carryOut op answer => cases houtcome

/-! ### Runs -/

/-- Work on the heat map goes by the operations of a heat map. -/
def Action.Ordinary : Action → Prop
  | onView f => ∃ op : HeatMap.Operation, f = (·.act op)
  | _ => True

@[simp] lemma Action.ordinary_onView (op : HeatMap.Operation) : (onView (·.act op)).Ordinary :=
  ⟨op, rfl⟩

@[simp] lemma Action.ordinary_type (edit : FormEdit) : (type edit).Ordinary := trivial

@[simp] lemma Action.ordinary_carryOut (op : Operation) (answer : Service.Answer) :
    (carryOut op answer).Ordinary := trivial

/-- An outcome leaves a heat map to which operations were applied. -/
lemma exists_after_of_leaves {today : Date} {h h' : HeatMap} {outcome : Outcome}
    (hleaves : outcome.Leaves today h h') : ∃ ops, h' = h.after ops := by
  cases outcome with
  | busy | ignored | failed | stale => exact ⟨[], hleaves⟩
  | invalid | rejected | cleared => exact ⟨_, hleaves⟩
  | drawn report =>
    obtain ⟨q, firings, heq⟩ := hleaves
    exact ⟨_, heq⟩

/-- An action does to the heat map what operations of the heat map do. -/
lemma act_view_eq_after (hordinary : action.Ordinary) (today : Date) (s : Session) :
    ∃ ops, (s.act today action).2.view = s.view.after ops := by
  cases houtcome : (s.act today action).1.outcome? with
  | some outcome => exact exists_after_of_leaves (act_leaves today s action houtcome)
  | none =>
    rw [view_act_of_no_outcome today s action houtcome]
    cases action with
    | edit => exact ⟨_, rfl⟩
    | onView f =>
      obtain ⟨op, rfl⟩ := hordinary
      exact ⟨[op], rfl⟩
    | type | begin | complete | carryOut => exact ⟨[], rfl⟩

/-- In every run, the heat map of a session is one to which operations were applied. -/
lemma Run.view_eq_after (run : Run start trace s)
    (hordinary : ∀ e ∈ trace, e.action.Ordinary) : ∃ ops, s.view = start.view.after ops := by
  refine run.invariant_of (I := fun s => ∃ ops, s.view = start.view.after ops) hordinary ⟨[], rfl⟩ ?_
  rintro today s action haction ⟨ops, hops⟩
  obtain ⟨ops', hops'⟩ := act_view_eq_after haction today s
  exact ⟨ops ++ ops', by rw [hops', hops, HeatMap.after_append]⟩

/-- In every run of a new session, the panel of the heat map is settled. -/
lemma Run.settled_view {today₀ : Date} {zone : Zone} (run : Run (.new today₀ zone) trace s)
    (hordinary : ∀ e ∈ trace, e.action.Ordinary) : s.view.Settled := by
  obtain ⟨ops, hops⟩ := run.view_eq_after hordinary
  rw [hops]
  exact HeatMap.settled_after today₀ zone ops

/-! ### Without success -/

/-- As long as nothing is drawn or cleared, what is on display is kept. Showing the form again takes
off the marks and lets go of the panel; without that, and when a request is merely begun, nothing
changes. -/
theorem view_kept_without_success {today₀ : Date} {zone : Zone}
    (run : Run (.new today₀ zone) trace s) (hordinary : ∀ e ∈ trace, e.action.Ordinary)
    (today : Date) (action : Action) (push : Bool) :
    (∀ outcome, (s.act today action).1.outcome? = some outcome →
      outcome.Keeps s.view (s.act today action).2.view) ∧
    ∀ ticket, (s.begin today push).1 = .issued ticket → (s.begin today push).2.view = s.view := by
  refine ⟨fun outcome houtcome => ?_, fun ticket hissued => ?_⟩
  · exact (run.settled_view hordinary).keeps_of_leaves (act_leaves today s action houtcome)
  · have hleaves := begin_leaves today push s
    rw [hissued] at hleaves
    exact hleaves

/-- The panel is held on a cell when a date is refused. -/
theorem view_kept_without_success_refused :
    ∃ trace s error, Run (.new .unixEpoch .utc) trace s ∧ s.view.lock = .frozen 0 ∧
      (s.act .unixEpoch (.begin true)).1.outcome? = some (.invalid error) ∧
      s.view.Released (s.act .unixEpoch (.begin true)).2.view := by
  have typed := (Run.nil : Run (.new .unixEpoch .utc) [] _).cons .unixEpoch
    (.type (.setExpressions "a")) trivial
  have drawn := typed.cons .unixEpoch (.carryOut .submit (.ok (.rows [default]))) trivial
  have clicked := drawn.cons .unixEpoch (.onView (·.act (.click 0))) trivial
  have dated := clicked.cons .unixEpoch (.type (.setDate "bah")) trivial
  have hkept := (view_kept_without_success dated (by simp) .unixEpoch (.begin true) true).1
    (.invalid { field := .date, value := "bah", message := DateRule.message .malformed })
  exact ⟨_, _, _, dated, by decide +kernel, rfl, hkept rfl⟩

end Session

end CronHeatMap
