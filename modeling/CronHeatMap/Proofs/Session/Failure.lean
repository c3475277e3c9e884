import CronHeatMap.Proofs.Session.Tickets

/-!
# What a session shows after a failure

A service that has failed answers with a rejection, which is turned into field errors, or with a text
of its own, which is shown as an alert. Neither needs to say anything: the rejection may be about no
field, and the text may be empty. Then the session shows at most what is left from before
(`failure_shows_why_iff`).
-/

namespace CronHeatMap

/-! ### Replies of a service that has failed -/

namespace Service

/-- The body of a failure says something: it is not empty, nor a rejection that is about no field. -/
def Explains (body : String) : Prop :=
  body ≠ "" ∧ ∀ rejection, body.startsWith "\x7b" = true →
    Rejection.parse? body = some rejection → rejection.fieldErrors ≠ []

/-- The ways in which the body of a failure can be read: as a rejection, as something that is meant
to be one, or as the words of the service. -/
lemma interpret_failure_cases (status : Nat) (body : String) :
    (∃ rejection, body.startsWith "\x7b" = true ∧ Rejection.parse? body = some rejection ∧
      interpret status false body = .ok (.rejected rejection)) ∨
    (body.startsWith "\x7b" = true ∧ Rejection.parse? body = none ∧
      interpret status false body = .error .malformedRejection) ∨
    (body.startsWith "\x7b" = false ∧
      interpret status false body = .error (.refused status body)) := by
  cases hbrace : body.startsWith "\x7b" with
  | false => exact Or.inr (Or.inr ⟨rfl, by simp [interpret, hbrace]⟩)
  | true =>
    cases hparse : Rejection.parse? body with
    | none => exact Or.inr (Or.inl ⟨rfl, rfl, by simp [interpret, hbrace, hparse]⟩)
    | some rejection => exact Or.inl ⟨rejection, rfl, rfl, by simp [interpret, hbrace, hparse]⟩

lemma ne_empty_of_startsWith_brace {body : String} (h : body.startsWith "\x7b" = true) :
    body ≠ "" := by
  rintro rfl
  revert h
  decide

end Service

namespace Session

variable {s start : Session} {trace later earlier : List Event} {e : Event} {ticket : Ticket}

/-! ### One answer -/

/-- The user is told what is wrong, by field errors or by an alert with words in it. -/
def ShowsWhy (s : Session) : Prop := s.errors ≠ [] ∨ s.alert.getD "" ≠ ""

instance (s : Session) : Decidable s.ShowsWhy := inferInstanceAs (Decidable (_ ∨ _))

/-- What is still shown after a failure that says nothing: an empty text puts an alert in place of
the one before, and a rejection puts field errors in place of those before. -/
def Retains (s : Session) (body : String) : Prop :=
  if body = "" then s.errors ≠ [] else s.alert.getD "" ≠ ""

lemma apply_failure_showsWhy_iff (today : Date) (q : Query) (s : Session) (status : Nat)
    (body : String) :
    (s.apply today q (Service.interpret status false body)).2.ShowsWhy ↔
      Service.Explains body ∨ s.Retains body := by
  rcases Service.interpret_failure_cases status body with
    ⟨rejection, hbrace, hparse, heq⟩ | ⟨hbrace, hparse, heq⟩ | ⟨hbrace, heq⟩
  · have hne := Service.ne_empty_of_startsWith_brace hbrace
    rw [heq]
    simp [apply, edit, ShowsWhy, Service.Explains, Retains, hne, hbrace, hparse]
  · have hne := Service.ne_empty_of_startsWith_brace hbrace
    have halert : Service.Error.malformedRejection.alert ≠ "" := by decide
    rw [heq]
    simp [apply, ShowsWhy, Service.Explains, hne, hparse, halert]
  · rw [heq]
    by_cases hempty : body = ""
    · simp [apply, ShowsWhy, Service.Explains, Retains, Service.Error.alert, hempty]
    · simp [apply, ShowsWhy, Service.Explains, Service.Error.alert, hempty, hbrace]

/-! ### Runs -/

/-- When the service has failed and its reply to the latest request is handed in, the session shows
why if the reply says so; otherwise it shows no more than what it retains. -/
theorem failure_shows_why_iff (run : Run start trace s) (htrace : trace = later ++ e :: earlier)
    (hissued : e.issued? = some ticket) (hlatest : ∀ e' ∈ later, ¬ e'.Supersedes) (today : Date)
    (status : Nat) (body : String) :
    (s.complete today ticket (Service.interpret status false body)).2.ShowsWhy ↔
      Service.Explains body ∨ s.Retains body := by
  have hseq := (run.seq_le_and_eq_iff htrace hissued).2.2 hlatest
  rw [complete_of_seq_eq hseq]
  exact apply_failure_showsWhy_iff today ticket.query { s with submitEnabled := true } status body

/-- The service has failed with words of its own. -/
theorem failure_shows_why_in_words :
    ∃ trace s ticket, Run (.new .unixEpoch .utc) trace s ∧ tickets trace = [ticket] ∧
      (s.complete .unixEpoch ticket (Service.interpret 500 false "down")).2.ShowsWhy := by
  have typed := (Run.nil : Run (.new .unixEpoch .utc) [] _).cons .unixEpoch
    (.type (.setExpressions "a")) trivial
  have begun := typed.cons .unixEpoch (.begin true) trivial
  have hwords : "down".startsWith "\x7b" = false := by decide +kernel
  have hexplains : Service.Explains "down" := by simp [Service.Explains, hwords]
  exact ⟨_, _, _, begun, rfl, (failure_shows_why_iff begun (List.nil_append _).symm rfl
    (by simp) .unixEpoch 500 "down").2 (Or.inl hexplains)⟩

/-- The service has failed, but neither with an empty rejection nor with an empty text is anything
shown for it. -/
theorem failure_unexplained :
    ∃ trace s ticket, Run (.new .unixEpoch .utc) trace s ∧ tickets trace = [ticket] ∧
      (s.complete .unixEpoch ticket (Service.interpret 400 false "\x7b\x7d")).1 = .rejected [] ∧
      ∀ body ∈ ["\x7b\x7d", ""],
        ¬ (s.complete .unixEpoch ticket (Service.interpret 400 false body)).2.ShowsWhy := by
  have typed := (Run.nil : Run (.new .unixEpoch .utc) [] _).cons .unixEpoch
    (.type (.setExpressions "a")) trivial
  have begun := typed.cons .unixEpoch (.begin true) trivial
  have hrejection : Service.interpret 400 false "\x7b\x7d" = .ok (.rejected {}) := by
    decide +kernel
  have hrefusal : Service.interpret 400 false "" = .error (.refused 400 "") := by decide +kernel
  refine ⟨_, _, _, begun, rfl, ?_, ?_⟩
  · rw [hrejection]
    rfl
  · rw [List.forall_mem_cons, List.forall_mem_singleton, hrejection, hrefusal]
    decide

end Session

end CronHeatMap
