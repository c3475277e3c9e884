import CronHeatMap.Proofs.Session.Run

/-!
# Tickets

Tickets are numbered in the order in which they are issued, and clearing the display uses up a
number as well. So a ticket has the count of the session as its number just as long as nothing
supersedes it (`Run.seq_le_and_eq_iff`). From this it follows which answers are applied and which are
dropped, in whatever order they are handed in.
-/

namespace CronHeatMap.Session

variable {s start : Session} {trace later earlier : List Event} {e : Event} {ticket : Ticket}

/-! ### Counting -/

/-- Beginning something at `s` has counted right: a ticket has the next number, and the count has
gone up by one if there is a ticket or the display was cleared. -/
def Counts (s : Session) (result : Submission × Session) : Prop :=
  match result.1 with
  | .issued ticket => ticket.seq = s.issued + 1 ∧ result.2.issued = s.issued + 1
  | .settled outcome => result.2.issued = if outcome = .cleared then s.issued + 1 else s.issued

lemma prepare_counts (today : Date) (push : Bool) (s : Session) :
    s.Counts (s.prepare today push) := by
  rcases prepare_cases today push s with ⟨error, -, heq⟩ | ⟨-, -, heq⟩ | ⟨-, -, heq⟩
  · rw [heq]
    rfl
  · rw [heq]
    rfl
  · rw [heq]
    exact ⟨rfl, rfl⟩

lemma begin_counts (today : Date) (push : Bool) (s : Session) : s.Counts (s.begin today push) := by
  rcases begin_cases today push s with ⟨-, heq⟩ | ⟨-, heq⟩
  · rw [heq]
    rfl
  · rw [heq]
    exact prepare_counts today push s

lemma Operation.begin_counts (today : Date) (s : Session) (op : Operation) :
    s.Counts (op.begin today s) := by
  obtain ⟨form, history, ⟨outcome, rfl | rfl, heq⟩ | heq | ⟨push, -, heq⟩⟩ :=
    op.begin_cases today s
  all_goals rw [heq]
  · rfl
  · rfl
  · rfl
  · exact prepare_counts today push { s with form, history }

/-- The ticket of an operation is the latest one. -/
lemma Operation.seq_eq_of_begin {today : Date} {op : Operation} {s' : Session}
    (hbegin : op.begin today s = (.issued ticket, s')) : ticket.seq = s'.issued := by
  have hcounts := op.begin_counts today s
  rw [hbegin] at hcounts
  exact hcounts.1.trans hcounts.2.symm

/-- What has led from `s` to `s'` has counted right: the count has gone up by one if earlier tickets
are superseded, and a ticket has the count as its number. -/
structure Event.Counted (e : Event) (s s' : Session) : Prop where
  issued_eq : s'.issued = if e.Supersedes then s.issued + 1 else s.issued
  seq_eq : ∀ ticket, e.issued? = some ticket → ticket.seq = s'.issued

/-- An event counts right if it takes over the ticket, or else the outcome, of something that has
counted right. -/
lemma Counts.counted {result : Submission × Session} (hcounts : s.Counts result) {s' : Session}
    (hissued : e.issued? = result.1.ticket?)
    (houtcome : result.1.ticket? = none → e.outcome? = result.1.outcome?)
    (hcount : s'.issued = result.2.issued) : e.Counted s s' := by
  obtain ⟨ticket | outcome, s''⟩ := result
  · have hissued : e.issued? = some ticket := hissued
    have hsupersedes : e.Supersedes := Or.inl (by rw [hissued]; rfl)
    refine ⟨?_, fun ticket' hticket' => ?_⟩
    · rw [if_pos hsupersedes]
      exact hcount.trans hcounts.2
    · cases hissued.symm.trans hticket'
      exact hcounts.1.trans (hcount.trans hcounts.2).symm
  · have hissued : e.issued? = none := hissued
    have hsupersedes : e.Supersedes ↔ outcome = .cleared := by
      simp [Event.Supersedes, hissued, houtcome rfl, Submission.outcome?]
    refine ⟨?_, by simp [hissued]⟩
    simp only [hsupersedes]
    exact hcount.trans hcounts

/-- An event that neither issues a ticket nor clears the display counts nothing. -/
lemma Event.counted_of_none {s' : Session} (hissued : e.issued? = none)
    (houtcome : e.outcome? ≠ some .cleared) (hcount : s'.issued = s.issued) : e.Counted s s' where
  issued_eq := by simpa [Event.Supersedes, hissued, houtcome] using hcount
  seq_eq := by simp [hissued]

/-- Every action counts right. -/
lemma act_counted (today : Date) (s : Session) (action : Action) :
    (s.act today action).1.Counted s (s.act today action).2 := by
  cases action with
  | type edit =>
    obtain ⟨form, heq⟩ := edit.apply_eq s
    exact Event.counted_of_none rfl (by simp [act]) (by simp [act, heq])
  | edit => exact Event.counted_of_none rfl (by simp [act]) rfl
  | onView f => exact Event.counted_of_none rfl (by simp [act]) rfl
  | begin push => exact (begin_counts today push s).counted rfl (fun _ => rfl) rfl
  | complete ticket answer =>
    exact Event.counted_of_none rfl (by simp [act, complete_ne_cleared]) (complete_issued ..)
  | carryOut op answer =>
    have hcounts := op.begin_counts today s
    rcases act_carryOut_cases today s op answer with
      ⟨outcome, s', hbegin, hact⟩ | ⟨ticket, s', hbegin, hact⟩
    · rw [hbegin] at hcounts
      rw [hact]
      exact hcounts.counted rfl (fun _ => rfl) rfl
    · rw [hbegin] at hcounts
      rw [hact]
      exact hcounts.counted rfl (fun h => by cases h) (complete_issued ..)

/-- The count never goes down. -/
lemma Event.Counted.le {s' : Session} (hcounted : e.Counted s s') : s.issued ≤ s'.issued := by
  rw [hcounted.issued_eq]
  split_ifs <;> omega

lemma Event.applied?_eq_some (h : e.applied? = some ticket) :
    e.answered? = some ticket ∧ e.outcome? ≠ some .stale := by
  simp only [applied?] at h
  split_ifs at h with hstale
  exact ⟨h, hstale⟩

/-- An answer that an action hands in is dropped unless its ticket has the count as its number. -/
lemma act_answered {today : Date} {action : Action}
    (h : (s.act today action).1.answered? = some ticket) :
    ticket.seq = (s.act today action).2.issued ↔
      (s.act today action).1.outcome? ≠ some .stale := by
  cases action with
  | type | edit | onView => simp [act] at h
  | begin push => simp [act] at h
  | complete ticket' answer =>
    obtain rfl : ticket' = ticket := Option.some.inj h
    simp only [act, complete_issued]
    by_cases hseq : ticket'.seq = s.issued
    · rw [complete_of_seq_eq hseq]
      simp [hseq, (apply_reports ..).isAnswer.ne_stale]
    · rw [complete_of_seq_ne hseq]
      simp [hseq]
  | carryOut op answer =>
    rcases act_carryOut_cases today s op answer with
      ⟨outcome, s', -, hact⟩ | ⟨ticket', s', hbegin, hact⟩
    · rw [hact] at h
      cases h
    · rw [hact] at h ⊢
      obtain rfl : ticket' = ticket := Option.some.inj h
      have hseq : ticket'.seq = s'.issued := Operation.seq_eq_of_begin hbegin
      simp only [complete_issued]
      rw [complete_of_seq_eq hseq]
      simp [hseq, (apply_reports ..).isAnswer.ne_stale]

/-! ### Runs -/

/-- No ticket has a number above the count, and a ticket has the count as its number as long as
nothing has superseded it. -/
lemma Run.seq_le_and_eq_iff (run : Run start trace s) (htrace : trace = later ++ e :: earlier)
    (hissued : e.issued? = some ticket) :
    ticket.seq ≤ s.issued ∧ (ticket.seq = s.issued ↔ ∀ e' ∈ later, ¬ e'.Supersedes) := by
  -- The bound goes along: it is what keeps a ticket that was superseded below the count for ever.
  induction run generalizing later with
  | nil => simp at htrace
  | @cons trace s today action _ _ ih =>
    have hcounted := act_counted today s action
    cases later with
    | nil =>
      simp only [List.nil_append, List.cons.injEq] at htrace
      have hseq := hcounted.seq_eq ticket (htrace.1 ▸ hissued)
      exact ⟨Nat.le_of_eq hseq, by simp [hseq]⟩
    | cons e' later =>
      simp only [List.cons_append, List.cons.injEq] at htrace
      obtain ⟨rfl, htrace⟩ := htrace
      obtain ⟨hle, hiff⟩ := ih htrace
      rw [hcounted.issued_eq, List.forall_mem_cons]
      split_ifs with hsupersedes
      · refine ⟨Nat.le_succ_of_le hle, fun h => ?_, fun h => absurd hsupersedes h.1⟩
        omega
      · exact ⟨hle, by simp [hsupersedes, hiff]⟩

lemma Run.seq_le (run : Run start trace s) (h : ticket ∈ tickets trace) :
    ticket.seq ≤ s.issued := by
  obtain ⟨e, he, hissued⟩ := List.mem_filterMap.1 h
  obtain ⟨later, earlier, htrace⟩ := List.append_of_mem he
  exact (run.seq_le_and_eq_iff htrace hissued).1

/-- An event of a run is an action taken in a state that the run has come through. -/
lemma Run.act_of_mem (run : Run start trace s) (htrace : trace = later ++ e :: earlier) :
    ∃ s' today action, Run start earlier s' ∧ action.Allowed earlier ∧
      e = (s'.act today action).1 := by
  induction run generalizing later with
  | nil => simp at htrace
  | @cons trace s today action run allowed ih =>
    cases later with
    | nil =>
      simp only [List.nil_append, List.cons.injEq] at htrace
      obtain ⟨rfl, rfl⟩ := htrace
      exact ⟨s, today, action, run, allowed, rfl⟩
    | cons e' later =>
      simp only [List.cons_append, List.cons.injEq] at htrace
      exact ih htrace.2

/-- The tickets of a run are issued with ascending numbers. -/
lemma Run.tickets_pairwise (run : Run start trace s) :
    (tickets trace).Pairwise fun later earlier => earlier.seq < later.seq := by
  induction run with
  | nil => exact List.Pairwise.nil
  | @cons trace s today action run _ ih =>
    have hcounted := act_counted today s action
    cases hissued : (s.act today action).1.issued? with
    | none =>
      rw [tickets, List.filterMap_cons_none hissued]
      exact ih
    | some ticket =>
      have hsupersedes : (s.act today action).1.Supersedes := Or.inl (by simp [hissued])
      rw [tickets, List.filterMap_cons_some hissued, List.pairwise_cons]
      refine ⟨fun ticket' hmem => ?_, ih⟩
      have hle := run.seq_le hmem
      have hseq := hcounted.seq_eq ticket hissued
      rw [hcounted.issued_eq, if_pos hsupersedes] at hseq
      omega

/-- The answers that a run has applied belong to tickets with numbers that never go down, nor above
the count. -/
lemma Run.applied_pairwise (run : Run start trace s) :
    (∀ ticket ∈ trace.filterMap Event.applied?, ticket.seq ≤ s.issued) ∧
      (trace.filterMap Event.applied?).Pairwise fun later earlier => earlier.seq ≤ later.seq := by
  induction run with
  | nil => exact ⟨by simp, List.Pairwise.nil⟩
  | @cons trace s today action _ _ ih =>
    obtain ⟨hle, hpairwise⟩ := ih
    have hmono : s.issued ≤ (s.act today action).2.issued := (act_counted today s action).le
    cases happlied : (s.act today action).1.applied? with
    | none =>
      rw [List.filterMap_cons_none happlied]
      exact ⟨fun ticket hmem => Nat.le_trans (hle ticket hmem) hmono, hpairwise⟩
    | some ticket =>
      obtain ⟨hanswered, hstale⟩ := Event.applied?_eq_some happlied
      have hseq : ticket.seq = (s.act today action).2.issued := (act_answered hanswered).2 hstale
      have hle' : ∀ ticket' ∈ trace.filterMap Event.applied?, ticket'.seq ≤ ticket.seq :=
        fun ticket' hmem => hseq ▸ Nat.le_trans (hle ticket' hmem) hmono
      rw [List.filterMap_cons_some happlied, List.forall_mem_cons, List.pairwise_cons]
      exact ⟨⟨Nat.le_of_eq hseq, fun ticket' hmem => hseq ▸ hle' ticket' hmem⟩, hle', hpairwise⟩

/-! ### Which answers are applied -/

/-- Among the answers that are handed in, those to the latest ticket count. -/
structure LastWriterWins (trace : List Event) (s : Session) : Prop where
  /-- Tickets are issued with ascending numbers. -/
  issued_ascending : (tickets trace).Pairwise fun later earlier => earlier.seq < later.seq
  /-- As long as nothing has superseded a ticket, its answer is applied. -/
  latest_applied : ∀ later e earlier ticket, trace = later ++ e :: earlier →
    e.issued? = some ticket → (∀ e' ∈ later, ¬ e'.Supersedes) →
      ∀ today answer, (s.complete today ticket answer).1.Reports answer
  /-- The answer to a ticket that was superseded is dropped, and nothing comes of it except that
  submitting is possible again. -/
  superseded_dropped : ∀ later e earlier ticket, trace = later ++ e :: earlier →
    e.issued? = some ticket → (∃ e' ∈ later, e'.Supersedes) →
      ∀ today answer, s.complete today ticket answer = (.stale, { s with submitEnabled := true })
  /-- The answers that were applied belong to tickets with numbers that never go down. -/
  applied_ascending :
    (trace.filterMap Event.applied?).Pairwise fun later earlier => earlier.seq ≤ later.seq
  /-- An answer was dropped only if its ticket had been superseded before. -/
  dropped_superseded : ∀ later e earlier ticket, trace = later ++ e :: earlier →
    e.answered? = some ticket → e.outcome? = some .stale →
      ∃ newer e₀ older, earlier = newer ++ e₀ :: older ∧ e₀.issued? = some ticket ∧
        ∃ e' ∈ newer, e'.Supersedes

/-- Only an answer that is handed in on its own can be dropped: an operation hands in the answer to
its own ticket, which is the latest. -/
lemma eq_complete_of_act_stale {today : Date} {action : Action}
    (hanswered : (s.act today action).1.answered? = some ticket)
    (hstale : (s.act today action).1.outcome? = some .stale) :
    (∃ answer, action = .complete ticket answer) ∧ ticket.seq ≠ s.issued := by
  have hseq : ticket.seq ≠ (s.act today action).2.issued := fun h =>
    (act_answered hanswered).1 h hstale
  cases action with
  | type | edit | onView => simp [act] at hanswered
  | begin push => simp [act] at hanswered
  | complete ticket' answer =>
    obtain rfl : ticket' = ticket := Option.some.inj hanswered
    exact ⟨⟨answer, rfl⟩, by simpa [act] using hseq⟩
  | carryOut op answer =>
    exact absurd ((act_counted today s (.carryOut op answer)).seq_eq ticket hanswered) hseq

/-- The answer to the latest request is applied, and answers to older ones are dropped, whenever and
however often they are handed in. -/
theorem last_writer_wins (run : Run start trace s) : LastWriterWins trace s where
  issued_ascending := run.tickets_pairwise
  latest_applied := by
    intro later e earlier ticket htrace hissued hlatest today answer
    have hseq := (run.seq_le_and_eq_iff htrace hissued).2.2 hlatest
    rw [complete_of_seq_eq hseq]
    exact apply_reports ..
  superseded_dropped := by
    rintro later e earlier ticket htrace hissued ⟨e', he', hsupersedes⟩ today answer
    apply complete_of_seq_ne
    intro hseq
    exact (run.seq_le_and_eq_iff htrace hissued).2.1 hseq e' he' hsupersedes
  applied_ascending := run.applied_pairwise.2
  dropped_superseded := by
    intro later e earlier ticket htrace hanswered hstale
    obtain ⟨s', today, action, run', allowed, rfl⟩ := run.act_of_mem htrace
    obtain ⟨⟨answer, rfl⟩, hseq⟩ := eq_complete_of_act_stale hanswered hstale
    obtain ⟨e₀, he₀, hissued⟩ := List.mem_filterMap.1 allowed
    obtain ⟨newer, older, hearlier⟩ := List.append_of_mem he₀
    refine ⟨newer, e₀, older, hearlier, hissued, ?_⟩
    by_contra hnone
    push Not at hnone
    exact hseq ((run'.seq_le_and_eq_iff hearlier hissued).2.2 hnone)

/-- A request is begun, and then overtaken by going back and forward again. -/
theorem last_writer_wins_overtaken :
    ∃ trace s, Run (.new .unixEpoch .utc) trace s ∧
      (tickets trace).map Ticket.seq = [2, 1] ∧ LastWriterWins trace s := by
  have typed := (Run.nil : Run (.new .unixEpoch .utc) [] _).cons .unixEpoch
    (.type (.setExpressions "a")) trivial
  have begun := typed.cons .unixEpoch (.begin true) trivial
  have back := begun.cons .unixEpoch (.carryOut (.navigate .back) (.error .unreachable)) trivial
  have forward := back.cons .unixEpoch (.carryOut (.navigate .forward) (.ok (.rows []))) trivial
  exact ⟨_, _, forward, by decide, last_writer_wins forward⟩

end CronHeatMap.Session
