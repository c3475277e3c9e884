import CronHeatMap.Proofs.Session.Tickets

/-!
# Tickets that are outstanding

A submission that is begun hands out a ticket, which is outstanding until an answer to it is handed
in. Submitting is disabled only while the latest ticket is outstanding
(`Run.exists_outstanding_of_disabled`): operations hand in the answer to their own ticket, so that
they never leave submitting disabled behind them. Hence it does not stay disabled for good.
-/

namespace CronHeatMap.Session

variable {s start : Session} {trace : List Event} {today : Date}

/-- The ticket that was handed out when a submission was begun. An operation keeps its ticket to
itself. -/
def Event.handedOut? (e : Event) : Option Ticket :=
  match e.action with
  | .begin _ => e.issued?
  | _ => none

/-- The tickets that were handed out and have had no answer since, latest first. -/
def outstanding : List Event → List Ticket
  | [] => []
  | e :: earlier =>
    e.handedOut?.toList ++ (outstanding earlier).filter fun ticket => e.answered? ≠ some ticket

lemma mem_outstanding_of_handedOut {e : Event} {ticket : Ticket}
    (hhanded : e.handedOut? = some ticket) : ticket ∈ outstanding (e :: trace) := by
  simp [outstanding, hhanded]

lemma mem_outstanding_of_not_answered {e : Event} {ticket : Ticket}
    (hmem : ticket ∈ outstanding trace) (hanswered : e.answered? = none) :
    ticket ∈ outstanding (e :: trace) := by
  simp [outstanding, hanswered, hmem]

/-! ### One action -/

/-- After an action that leaves submitting disabled, a ticket has just been handed out, or submitting
was disabled before, no answer was handed in and no ticket was superseded. -/
lemma act_disabled {action : Action} (hdisabled : (s.act today action).2.submitEnabled = false) :
    (∃ ticket, (s.act today action).1.handedOut? = some ticket ∧
        (s.act today action).1.issued? = some ticket) ∨
      s.submitEnabled = false ∧ (s.act today action).1.answered? = none ∧
        ¬ (s.act today action).1.Supersedes := by
  cases action with
  | type edit =>
    obtain ⟨form, heq⟩ := edit.apply_eq s
    simp only [act, heq] at hdisabled
    exact Or.inr ⟨hdisabled, rfl, by simp [act, Event.Supersedes]⟩
  | edit => exact Or.inr ⟨hdisabled, rfl, by simp [act, Event.Supersedes]⟩
  | onView f => exact Or.inr ⟨hdisabled, rfl, by simp [act, Event.Supersedes]⟩
  | begin push =>
    rcases act_begin_cases today s push with
      ⟨outcome, s', hbegin, hact⟩ | ⟨ticket, s', -, hact⟩
    · rw [hact] at hdisabled ⊢
      obtain ⟨houtcome, hswitch⟩ := begin_settled hbegin
      refine Or.inr ⟨hswitch.symm.trans hdisabled, rfl, ?_⟩
      rcases houtcome with ⟨rfl, -⟩ | rfl | ⟨error, rfl⟩ <;> simp [Event.Supersedes]
    · rw [hact]
      exact Or.inl ⟨ticket, rfl, rfl⟩
  | complete ticket answer => simp [act] at hdisabled
  | carryOut op answer =>
    rcases act_carryOut_cases today s op answer with
      ⟨outcome, s', hbegin, hact⟩ | ⟨ticket, s', -, hact⟩
    · rw [hact] at hdisabled ⊢
      rcases Operation.begin_settled hbegin with ⟨-, henabled⟩ | ⟨houtcome, hswitch⟩
      · simp [henabled] at hdisabled
      · refine Or.inr ⟨hswitch.symm.trans hdisabled, rfl, ?_⟩
        rcases houtcome with rfl | rfl | ⟨error, rfl⟩ <;> simp [Event.Supersedes]
    · rw [hact] at hdisabled
      simp at hdisabled

/-! ### Runs -/

/-- While submitting is disabled, the latest ticket is outstanding. -/
lemma Run.exists_outstanding_of_disabled (run : Run start trace s)
    (hstart : start.submitEnabled = true) (hdisabled : s.submitEnabled = false) :
    ∃ ticket ∈ outstanding trace, ticket.seq = s.issued := by
  induction run with
  | nil => simp [hstart] at hdisabled
  | @cons trace s today action _ _ ih =>
    have hcounted := act_counted today s action
    rcases act_disabled hdisabled with ⟨ticket, hhanded, hissued⟩ | ⟨hbefore, hanswered, hnone⟩
    · exact ⟨ticket, mem_outstanding_of_handedOut hhanded, hcounted.seq_eq ticket hissued⟩
    · -- Nothing has superseded the ticket that was the latest before, so it is so still.
      obtain ⟨ticket, hmem, hseq⟩ := ih hbefore
      refine ⟨ticket, mem_outstanding_of_not_answered hmem hanswered, ?_⟩
      rw [hcounted.issued_eq, if_neg hnone, hseq]

/-- Submitting is disabled only while the latest ticket is outstanding. So when all tickets that were
handed out have been answered, a submission that is begun does not find the session busy. -/
theorem disabled_only_while_outstanding {today₀ : Date} {zone : Zone}
    (run : Run (.new today₀ zone) trace s) :
    (s.submitEnabled = false → ∃ ticket ∈ outstanding trace, ticket.seq = s.issued) ∧
      (outstanding trace = [] → ∀ today push, (s.begin today push).1 ≠ .settled .busy) := by
  refine ⟨run.exists_outstanding_of_disabled rfl, fun hnone today push hbusy => ?_⟩
  obtain ⟨-, hdisabled⟩ | hother | ⟨error, hother⟩ := (begin_settled (Prod.ext hbusy rfl)).1
  · obtain ⟨ticket, hmem, -⟩ := run.exists_outstanding_of_disabled rfl hdisabled
    simp [hnone] at hmem
  · cases hother
  · cases hother

/-- A submission is overtaken by a navigation, and another one is begun. Then the latest ticket is
outstanding; when both have been answered, the older one last, a submission can be begun. -/
theorem disabled_only_while_outstanding_overtaken :
    ∃ trace trace' s s', Run (.new .unixEpoch .utc) trace s ∧ Run (.new .unixEpoch .utc) trace' s' ∧
      (outstanding trace).map Ticket.seq = [3, 1] ∧ s.submitEnabled = false ∧
      (∃ ticket ∈ outstanding trace, ticket.seq = s.issued) ∧
      outstanding trace' = [] ∧ ∀ today push, (s'.begin today push).1 ≠ .settled .busy := by
  have typed := (Run.nil : Run (.new .unixEpoch .utc) [] _).cons .unixEpoch
    (.type (.setExpressions "a")) trivial
  have begun := typed.cons .unixEpoch (.begin true) trivial
  have back := begun.cons .unixEpoch (.carryOut (.navigate .back) (.error .unreachable)) trivial
  have forward := back.cons .unixEpoch
    (.carryOut (.navigate .forward) (.error .unreachable)) trivial
  have again := forward.cons .unixEpoch (.begin true) trivial
  have latest := again.cons .unixEpoch
    (.complete { seq := 3, query := { expressions := "a" } } (.ok (.rows []))) (by decide)
  have oldest := latest.cons .unixEpoch
    (.complete { seq := 1, query := { expressions := "a" } } (.ok (.rows []))) (by decide)
  exact ⟨_, _, _, _, again, oldest, by decide, rfl,
    (disabled_only_while_outstanding again).1 rfl, by decide,
    (disabled_only_while_outstanding oldest).2 (by decide)⟩

end CronHeatMap.Session
