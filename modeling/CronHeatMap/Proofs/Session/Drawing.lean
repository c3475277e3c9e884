import CronHeatMap.Proofs.HeatMap.Basic
import CronHeatMap.Proofs.Session.Tickets
import CronHeatMap.Proofs.Session.Visits

/-!
# What a session shows after a draw

The form, the history and the heat map are brought up to date at different moments: the first two
when a request is begun, the last when its answer is handed in. A request asks the query of the form,
which is by then the query of the current entry (`Operation.begin_asks`), and an operation hands in
the answer to its own request; so all of them agree once the answer is drawn.
-/

namespace CronHeatMap.Session

variable {s s' : Session} {today : Date} {q : Query} {report : DrawReport}

/-- The session shows the firings that answer a query: the form, the history and the heat map are
about this query, and nothing is picked out. -/
structure Shows (today : Date) (q : Query) (firings : List Firing) (s : Session) : Prop where
  form_eq : s.form = q
  state_eq : s.history.current.state = some q
  ofLocation_eq : Query.ofLocation s.history.location = q
  listing_eq : s.view.listing = .ofExpressions q.lines
  reference_eq : s.view.axes.reference = .ofText q.date today
  mem_keys : ∀ key, key ∈ s.view.scene.elements.map Element.key ↔ key ∈ firings.map Firing.key

/-! ### Asking -/

/-- A ticket is for the query of the form, which is that of the current entry. Without a ticket,
nothing is drawn. -/
def Asks (s : Session) : Submission → Prop
  | .issued ticket => ticket.query = s.form ∧ s.history.current.state = some s.form
  | .settled outcome => ∀ report, outcome ≠ .drawn report

lemma prepare_asks (today : Date) {push : Bool} {s : Session}
    (hstate : push = false → s.history.current.state = some s.form) :
    (s.prepare today push).2.Asks (s.prepare today push).1 := by
  rcases prepare_cases today push s with ⟨error, -, heq⟩ | ⟨-, -, heq⟩ | ⟨-, -, heq⟩
  · rw [heq]
    simp [Asks]
  · rw [heq]
    simp [Asks]
  · rw [heq]
    cases push with
    | true => exact ⟨rfl, History.state_current_visit ..⟩
    | false => exact ⟨rfl, hstate rfl⟩

/-- What an operation asks is the query of the form and of the current entry. -/
lemma Operation.begin_asks (today : Date) (s : Session) (op : Operation) :
    (op.begin today s).2.Asks (op.begin today s).1 := by
  obtain ⟨form, history, ⟨outcome, rfl | rfl, heq⟩ | heq | ⟨push, hstate, heq⟩⟩ :=
    op.begin_cases today s
  all_goals rw [heq]
  · simp [Asks]
  · simp [Asks]
  · simp [Asks]
  · exact prepare_asks today hstate

/-! ### Drawing -/

/-- Only firings are drawn. -/
lemma apply_eq_drawn {answer : Service.Answer}
    (hdrawn : s.apply today q answer = (.drawn report, s')) :
    ∃ firings, answer = .ok (.rows firings) ∧ s' = (s.display today q firings).2 := by
  match answer with
  | .ok (.rows firings) => exact ⟨firings, rfl, (congrArg Prod.snd hdrawn).symm⟩
  | .ok (.rejected _) => cases hdrawn
  | .error _ => cases hdrawn

/-- What is displayed lists the query, with nothing picked out. -/
lemma listing_display (today : Date) (q : Query) (firings : List Firing) (s : Session) :
    (s.display today q firings).2.view.listing = .ofExpressions q.lines :=
  (HeatMap.listing_draw ..).trans (Listing.cleared_ofExpressions _)

/-- Displaying the answer to the query of the form and of the current entry. -/
lemma display_shows (hform : s.form = q) (hstate : s.history.current.state = some q)
    (hlocation : Query.ofLocation s.history.location = q) (today : Date) (firings : List Firing) :
    (s.display today q firings).2.Shows today q firings where
  form_eq := hform
  state_eq := hstate
  ofLocation_eq := hlocation
  listing_eq := listing_display today q firings s
  reference_eq := congrArg Axes.reference (HeatMap.axes_draw ..)
  mem_keys _ := HeatMap.mem_keys_draw

/-- However a session has been used before: if an operation draws, then it has asked the service,
and the session shows the answer to what it has asked. -/
theorem shows_of_drawn {σ : Type} {today₀ : Date} {zone : Zone} {trace : List Event}
    (run : Run (.new today₀ zone) trace s) (today : Date) (op : Operation)
    (service : Query → σ → Service.Answer × σ) (state : σ)
    (hdrawn : ((op.turn today s).run service state).1 = (.drawn report, s')) :
    ∃ q firings, (op.turn today s).asked? = some q ∧
      (service q state).1 = .ok (.rows firings) ∧ s'.Shows today q firings := by
  have hcoherent : (op.begin today s).2.history.Coherent :=
    op.begin_coherent run.coherent today
  have hasks := op.begin_asks today s
  have hcounts := op.begin_counts today s
  rw [Operation.turn_eq_finish] at hdrawn ⊢
  rcases hbegin : op.begin today s with ⟨ticket | outcome, s₁⟩
  · rw [hbegin] at hcoherent hasks hcounts hdrawn
    obtain ⟨hquery, hstate⟩ := hasks
    have hseq : ticket.seq = s₁.issued := hcounts.1.trans hcounts.2.symm
    have hcomplete : s₁.complete today ticket (service ticket.query state).1 =
        (.drawn report, s') := hdrawn
    rw [complete_of_seq_eq hseq] at hcomplete
    obtain ⟨firings, hanswer, rfl⟩ := apply_eq_drawn hcomplete
    rw [← hquery] at hstate
    exact ⟨ticket.query, firings, rfl, hanswer,
      display_shows (s := { s₁ with submitEnabled := true }) hquery.symm hstate
        (hcoherent.ofLocation_location hstate) today firings⟩
  · rw [hbegin] at hasks hdrawn
    exact absurd (congrArg Prod.fst hdrawn) (hasks report)

/-- A query is drawn again after another one was drawn in the meantime. -/
theorem shows_of_drawn_back :
    ∃ trace s report s', Run (.new .unixEpoch .utc) trace s ∧ s.form = { expressions := "b" } ∧
      (((Operation.navigate .back).turn .unixEpoch s).run
        (fun _ n => (.ok (.rows [default]), n + 1)) 0).1 = (.drawn report, s') ∧
      ∃ firings, s'.Shows .unixEpoch { expressions := "a" } firings ∧ firings ≠ [] := by
  have loaded := (Run.nil : Run (.new .unixEpoch .utc) [] _).cons .unixEpoch
    (.carryOut (.load "/?expressions=a&date=") (.ok (.rows [default]))) trivial
  have typed := loaded.cons .unixEpoch (.type (.setExpressions "b")) trivial
  have drawn := typed.cons .unixEpoch (.carryOut .submit (.ok (.rows []))) trivial
  obtain ⟨q, firings, hasked, hanswer, hshows⟩ := shows_of_drawn drawn .unixEpoch
    (.navigate .back) (fun _ n => (.ok (.rows [default]), n + 1)) 0 rfl
  cases hasked
  cases hanswer
  exact ⟨_, _, _, _, drawn, rfl, rfl, _, hshows, by simp⟩

end CronHeatMap.Session
