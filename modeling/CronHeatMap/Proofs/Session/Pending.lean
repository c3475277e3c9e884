import CronHeatMap.Proofs.Session.Tickets

/-!
# Requests that are under way

What happens while the answer to a ticket has not been handed in. Going to another entry supersedes
the ticket unless the date of the entry is refused (`navigate_supersedes_iff`), and submitting stays
disabled until an answer is handed in or a navigation supersedes the ticket
(`Run.submitEnabled_eq_false`).
-/

namespace CronHeatMap.Session

variable {s start : Session} {trace later earlier : List Event} {e : Event} {ticket : Ticket}
  {today : Date}

/-! ### Going to another entry -/

/-- Answers to a ticket are dropped unless its number is the count. -/
lemma complete_stale_iff (ticket : Ticket) (s : Session) :
    (∀ today answer,
        s.complete today ticket answer = (.stale, { s with submitEnabled := true })) ↔
      ticket.seq ≠ s.issued := by
  constructor
  · intro hstale hseq
    have hreports := apply_reports default ticket.query { s with submitEnabled := true }
      (.error .unreachable)
    rw [← complete_of_seq_eq hseq, hstale] at hreports
    exact hreports.isAnswer.ne_stale rfl
  · intro hseq today answer
    exact complete_of_seq_ne hseq

/-- Answers to a ticket are dropped from now on exactly if the ticket has been superseded. -/
lemma Run.stale_iff (run : Run start trace s) (htrace : trace = later ++ e :: earlier)
    (hissued : e.issued? = some ticket) :
    (∀ more s', Run start (more ++ trace) s' → ∀ today answer,
        s'.complete today ticket answer = (.stale, { s' with submitEnabled := true })) ↔
      ∃ e' ∈ later, e'.Supersedes := by
  constructor
  · intro hstale
    have hseq := (complete_stale_iff ticket s).1 (hstale [] s run)
    by_contra hnone
    push Not at hnone
    exact hseq ((run.seq_le_and_eq_iff htrace hissued).2.2 hnone)
  · -- What has superseded the ticket stays in the trace, whatever happens later.
    rintro ⟨e', he', hsupersedes⟩ more s' run'
    apply (complete_stale_iff ticket s').2
    intro hseq
    have hmore : more ++ trace = (more ++ later) ++ e :: earlier := by
      rw [htrace, List.append_assoc]
    exact (run'.seq_le_and_eq_iff hmore hissued).2.1 hseq e' (List.mem_append_right _ he')
      hsupersedes

/-- Going to an entry counts unless the date of its query is refused. -/
lemma navigate_issued {d : History.Direction} {h : History} {q : Query}
    (hstep : s.history.step? d = some h) (hstate : h.current.state = some q) (today : Date)
    (answer : Service.Answer) :
    ((s.navigate today d).resolve answer).2.issued =
      if q.isEmpty = true ∨ DateRule.check q.date today.year = none then s.issued + 1
      else s.issued := by
  rw [navigate, beginNavigation_of_state hstep hstate]
  cases hempty : q.isEmpty with
  | true => simp [clear, edit]
  | false =>
    rcases prepare_cases today false { s with history := h, form := q } with
      ⟨error, hdate, heq⟩ | ⟨-, hempty', -⟩ | ⟨hdate, -, heq⟩
    · have hdate : DateRule.check q.date today.year = some error := hdate
      simp [heq, hdate, edit]
    · exact absurd (hempty.symm.trans hempty') (by decide)
    · have hdate : DateRule.check q.date today.year = none := hdate
      simp [heq, hdate]

/-- Going to an entry supersedes earlier tickets unless the date of its query is refused. -/
lemma navigate_supersedes_iff {d : History.Direction} {h : History} {q : Query}
    (hstep : s.history.step? d = some h) (hstate : h.current.state = some q) (today : Date)
    (answer : Service.Answer) :
    (s.act today (.carryOut (.navigate d) answer)).1.Supersedes ↔
      q.isEmpty = true ∨ DateRule.check q.date today.year = none := by
  have hissued : (s.act today (.carryOut (.navigate d) answer)).2.issued = _ :=
    navigate_issued hstep hstate today answer
  rw [(act_counted today s (.carryOut (.navigate d) answer)).issued_eq] at hissued
  split_ifs at hissued with hsupersedes hvalid hvalid
  · exact iff_of_true hsupersedes hvalid
  · omega
  · omega
  · exact iff_of_false hsupersedes hvalid

/-- After going to an entry with a query, answers to a ticket are dropped from then on exactly if
the query has no expressions, or its date is not refused on that day, or the ticket had been
superseded before. -/
theorem navigation_supersedes_iff (run : Run start trace s)
    (htrace : trace = later ++ e :: earlier) (hissued : e.issued? = some ticket)
    {d : History.Direction} {h : History} {q : Query} (hstep : s.history.step? d = some h)
    (hstate : h.current.state = some q) (today : Date) (answer : Service.Answer) :
    (∀ more s', Run start (more ++ (s.act today (.carryOut (.navigate d) answer)).1 :: trace) s' →
        ∀ today' response, s'.complete today' ticket response =
          (.stale, { s' with submitEnabled := true })) ↔
      q.isEmpty = true ∨ DateRule.check q.date today.year = none ∨
        ∃ e' ∈ later, e'.Supersedes := by
  have hafter : Run start ((s.act today (.carryOut (.navigate d) answer)).1 :: trace) _ :=
    run.cons today (.carryOut (.navigate d) answer) trivial
  have hsplit : (s.act today (.carryOut (.navigate d) answer)).1 :: trace =
      ((s.act today (.carryOut (.navigate d) answer)).1 :: later) ++ e :: earlier := by
    rw [htrace, List.cons_append]
  rw [hafter.stale_iff hsplit hissued]
  simp only [List.mem_cons, or_and_right, exists_or, exists_eq_left]
  rw [navigate_supersedes_iff hstep hstate today answer, or_assoc]

/-- Going forward to the entry of a request that is under way asks again, so that the answer to the
first ticket is dropped. -/
theorem navigation_supersedes_same_query :
    ∃ trace s, Run (.new .unixEpoch .utc) trace s ∧ ∀ answer more s',
      Run (.new .unixEpoch .utc)
        (more ++ (s.act .unixEpoch (.carryOut (.navigate .forward) answer)).1 :: trace) s' →
      ∀ today response,
        s'.complete today { seq := 1, query := { expressions := "a", date := "" } } response =
          (.stale, { s' with submitEnabled := true }) := by
  have typed := (Run.nil : Run (.new .unixEpoch .utc) [] _).cons .unixEpoch
    (.type (.setExpressions "a")) trivial
  have begun := typed.cons .unixEpoch (.begin true) trivial
  have back := begun.cons .unixEpoch (.carryOut (.navigate .back) (.error .unreachable)) trivial
  refine ⟨_, _, back, fun answer => ?_⟩
  exact (navigation_supersedes_iff back (show _ = [_] ++ _ :: _ from rfl) rfl rfl rfl .unixEpoch
    answer).2 (Or.inr (Or.inl (by decide)))

/-- A request that is under way outlives going back to an entry whose date is refused: its answer is
drawn while the form holds the query of that entry. -/
theorem refused_date_keeps_request :
    ∃ trace s ticket h q, Run (.new .unixEpoch .utc) trace s ∧
      (∃ e earlier, trace = e :: earlier ∧ e.action = .begin true ∧ e.issued? = some ticket) ∧
      s.history.step? .back = some h ∧ h.current.state = some q ∧ ticket.query ≠ q ∧
      ∀ answer, ((s.navigate .unixEpoch .back).resolve answer).2.history = h ∧
        ∃ report s', ((s.navigate .unixEpoch .back).resolve answer).2.complete .unixEpoch ticket
          (.ok (.rows [])) = (.drawn report, s') ∧
          s'.form = q ∧ s'.history = h ∧ s'.mode = .rendered := by
  have loaded := (Run.nil : Run (.new .unixEpoch .utc) [] _).cons .unixEpoch
    (.carryOut (.load "/?expressions=a&date=bah") (.error .unreachable)) trivial
  have dated := loaded.cons .unixEpoch (.type (.setDate "today")) trivial
  have begun := dated.cons .unixEpoch (.begin true) trivial
  exact ⟨_, _, { seq := 1, query := { expressions := "a", date := "today" } }, _,
    { expressions := "a", date := "bah" }, begun, ⟨_, _, rfl, rfl, by decide⟩, rfl, by decide,
    by decide, fun answer => ⟨rfl, _, _, rfl, rfl, rfl, rfl⟩⟩

/-! ### Submitting again -/

/-- While submitting is disabled, only navigation does not find the session busy. -/
lemma Operation.navigates_or_busy (hdisabled : s.submitEnabled = false) (today : Date)
    (op : Operation) :
    (∃ direction, op = .navigate direction) ∨
      ∃ form history, op.begin today s = (.settled .busy, { s with form, history }) := by
  cases op with
  | submit => exact Or.inr ⟨s.form, s.history, Session.begin_of_disabled hdisabled true⟩
  | load location =>
    let form := Query.ofLocation location
    let history := (History.ofLocation location).replace (some form)
    exact Or.inr ⟨form, history,
      Session.begin_of_disabled (s := { s with form, history }) hdisabled true⟩
  | navigate direction => exact Or.inl ⟨direction, rfl⟩

/-- Submitting is made possible again only by an answer that is handed in or by a navigation that
supersedes earlier tickets. -/
lemma act_submitEnabled (hdisabled : s.submitEnabled = false) {action : Action}
    (hcompletes : ¬ (s.act today action).1.Completes)
    (hnavigates : ¬ ((s.act today action).1.Navigates ∧ (s.act today action).1.Supersedes)) :
    (s.act today action).2.submitEnabled = false := by
  cases action with
  | type edit =>
    obtain ⟨form, heq⟩ := edit.apply_eq s
    simpa only [act, heq] using hdisabled
  | edit => exact hdisabled
  | onView f => exact hdisabled
  | begin push => simpa only [act, begin_of_disabled hdisabled] using hdisabled
  | complete ticket answer => exact absurd rfl hcompletes
  | carryOut op answer =>
    rcases act_carryOut_cases today s op answer with
      ⟨outcome, s', hbegin, hact⟩ | ⟨ticket, s', hbegin, hact⟩
    · rw [hact] at hnavigates ⊢
      rcases op.navigates_or_busy hdisabled today with
        ⟨direction, rfl⟩ | ⟨form, history, hbusy⟩
      · have houtcome : outcome ≠ .cleared := by
          rintro rfl
          exact hnavigates ⟨rfl, Or.inr rfl⟩
        rcases Operation.begin_settled hbegin with ⟨hcleared, -⟩ | ⟨-, hswitch⟩
        · exact absurd hcleared houtcome
        · exact hswitch.trans hdisabled
      · cases hbusy.symm.trans hbegin
        exact hdisabled
    · rw [hact] at hnavigates
      rcases op.navigates_or_busy hdisabled today with
        ⟨direction, rfl⟩ | ⟨form, history, hbusy⟩
      · exact absurd ⟨rfl, Or.inl rfl⟩ hnavigates
      · cases hbusy.symm.trans hbegin

/-- A submission that issues a ticket makes submitting impossible. -/
lemma submitEnabled_of_begin_issued {push : Bool} {s' : Session}
    (hbegin : s.begin today push = (.issued ticket, s')) : s'.submitEnabled = false := by
  rcases begin_cases today push s with ⟨-, heq⟩ | ⟨-, hprepare⟩
  · cases heq.symm.trans hbegin
  · rw [hprepare] at hbegin
    rcases prepare_cases today push s with ⟨error, -, heq⟩ | ⟨-, -, heq⟩ | ⟨-, -, heq⟩
    · cases heq.symm.trans hbegin
    · cases heq.symm.trans hbegin
    · cases heq.symm.trans hbegin
      rfl

/-- Nothing happens that makes submitting possible again. -/
def Quiet (later : List Event) : Prop :=
  ∀ e ∈ later, ¬ e.Completes ∧ ¬ (e.Navigates ∧ e.Supersedes)

instance (later : List Event) : Decidable (Quiet later) := inferInstanceAs (Decidable (∀ _ ∈ _, _))

/-- Submitting stays disabled as long as nothing enables it again. -/
lemma Run.submitEnabled_eq_false (run : Run start trace s) (htrace : trace = later ++ e :: earlier)
    {push : Bool} (haction : e.action = .begin push) (hissued : e.issued? = some ticket)
    (hquiet : Quiet later) : s.submitEnabled = false := by
  induction run generalizing later with
  | nil => simp at htrace
  | @cons trace s today action _ _ ih =>
    cases later with
    | nil =>
      simp only [List.nil_append, List.cons.injEq] at htrace
      obtain ⟨rfl, -⟩ := htrace
      obtain rfl : action = .begin push := (act_action ..).symm.trans haction
      rcases hbegin : s.begin today push with ⟨ticket' | outcome, s'⟩
      · simp only [act, hbegin]
        exact submitEnabled_of_begin_issued hbegin
      · simp [act, hbegin, Submission.ticket?] at hissued
    | cons e' later =>
      simp only [List.cons_append, List.cons.injEq] at htrace
      obtain ⟨rfl, htrace⟩ := htrace
      obtain ⟨⟨hcompletes, hnavigates⟩, hquiet⟩ := List.forall_mem_cons.1 hquiet
      exact act_submitEnabled (ih htrace hquiet) hcompletes hnavigates

/-- From the beginning of a request until an answer is handed in or a navigation supersedes the
request, submitting is refused and changes nothing. The answer to an older ticket is dropped, and
yet makes submitting possible again. -/
theorem submit_disabled_while_pending (run : Run start trace s)
    (htrace : trace = later ++ e :: earlier) {push : Bool} (haction : e.action = .begin push)
    (hissued : e.issued? = some ticket) (hquiet : Quiet later) :
    s.submitEnabled = false ∧ (∀ today push, s.begin today push = (.settled .busy, s)) ∧
      ∀ older ∈ tickets earlier, ∀ today answer,
        s.complete today older answer = (.stale, { s with submitEnabled := true }) := by
  have hdisabled := run.submitEnabled_eq_false htrace haction hissued hquiet
  refine ⟨hdisabled, fun _ push => begin_of_disabled hdisabled push, fun older holder => ?_⟩
  obtain ⟨e₀, he₀, hissued₀⟩ := List.mem_filterMap.1 holder
  obtain ⟨newer, oldest, hearlier⟩ := List.append_of_mem he₀
  have hsplit : trace = (later ++ e :: newer) ++ e₀ :: oldest := by
    rw [htrace, hearlier, List.append_assoc, List.cons_append]
  have hsupersedes : ∃ e' ∈ later ++ e :: newer, e'.Supersedes :=
    ⟨e, by simp, Or.inl (by simp [hissued])⟩
  exact (run.stale_iff hsplit hissued₀).2 hsupersedes [] s run

/-- A second request is refused while the first one is under way. -/
theorem submit_disabled_after_begin :
    ∃ trace s, Run (.new .unixEpoch .utc) trace s ∧ (tickets trace).map Ticket.seq = [1] ∧
      s.submitEnabled = false ∧ ∀ today push, s.begin today push = (.settled .busy, s) := by
  have typed := (Run.nil : Run (.new .unixEpoch .utc) [] _).cons .unixEpoch
    (.type (.setExpressions "a")) trivial
  have begun := typed.cons .unixEpoch (.begin true) trivial
  have again := begun.cons .unixEpoch (.begin true) trivial
  have hdisabled := submit_disabled_while_pending again (show _ = [_] ++ _ :: _ from rfl) rfl rfl
    (by decide)
  exact ⟨_, _, again, by decide, hdisabled.1, hdisabled.2.1⟩

/-- The answer to a ticket that was superseded, handed in late and only once, makes it possible to
submit while a newer ticket is under way, to which nothing was handed in. -/
theorem superseded_answer_opens_submit :
    ∃ trace s ticket later e earlier, Run (.new .unixEpoch .utc) trace s ∧
      (trace.filterMap Event.answered?).Nodup ∧ trace = later ++ e :: earlier ∧
      e.action = .begin true ∧ e.issued? = some ticket ∧
      (∀ e' ∈ later, e'.answered? ≠ some ticket ∧ ¬ e'.Navigates) ∧
      s.submitEnabled = true ∧
      (s.begin .unixEpoch true).1 = .issued { ticket with seq := ticket.seq + 1 } := by
  have typed := (Run.nil : Run (.new .unixEpoch .utc) [] _).cons .unixEpoch
    (.type (.setExpressions "a")) trivial
  have begun := typed.cons .unixEpoch (.begin true) trivial
  have back := begun.cons .unixEpoch (.carryOut (.navigate .back) (.error .unreachable)) trivial
  have forward := back.cons .unixEpoch
    (.carryOut (.navigate .forward) (.error .unreachable)) trivial
  have again := forward.cons .unixEpoch (.begin true) trivial
  have late := again.cons .unixEpoch
    (.complete { seq := 1, query := { expressions := "a" } } (.ok (.rows []))) (by decide)
  refine ⟨_, _, { seq := 3, query := { expressions := "a" } }, [_], _, _, late, by decide, rfl, rfl,
    rfl, by decide, rfl, by decide⟩

end CronHeatMap.Session
