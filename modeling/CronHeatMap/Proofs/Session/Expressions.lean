import CronHeatMap.Proofs.HeatMap.Basic
import CronHeatMap.Proofs.Query.Lines
import CronHeatMap.Proofs.Session.Drawing

/-!
# The expressions of a session

Expressions can be added to the form one after the other. Each of them begins on a line of its own,
whatever the form ends with, so that the lines of the form are those of all that was added
(`added_expressions_listed`).

A form without expressions is not worth a request. This goes by the text of the form and not by its
lines, so that a form of blanks is asked about although it has no line (`blank_form_asked`); all other
requests, and what is drawn for them, list at least one (`lists_unless_blank`).
-/

namespace CronHeatMap

namespace Session

variable {s s' : Session} {today : Date}

/-! ### Adding expressions -/

/-- A line feed is put before the added text unless the text so far ends with one. -/
lemma listed_appendLine (expressions text : String) :
    Text.listed (appendLine expressions text).toList =
      Text.listed expressions.toList ++ Text.listed text.toList := by
  rw [appendLine, String.toList_ofList]
  by_cases hempty : expressions.toList = []
  · rw [hempty, if_pos (Or.inl rfl), List.append_nil, List.nil_append, Text.listed_trim]
    rfl
  by_cases hfeed : expressions.toList.getLast? = some '\n'
  · obtain ⟨a, ha⟩ := List.getLast?_eq_some_iff.1 hfeed
    -- The line below the last line feed is empty, and so it was not listed.
    have hlisted : Text.listed expressions.toList = Text.listed a := by
      rw [ha, Text.listed_concat_of_isBlank (by decide)]
    rw [if_pos (Or.inr hfeed), List.append_nil, hlisted, ha, List.append_assoc,
      List.singleton_append, Text.listed_append_cons, Text.listed_trim]
  · rw [if_neg (not_or.2 ⟨hempty, hfeed⟩), List.append_assoc, List.singleton_append,
      Text.listed_append_cons, Text.listed_trim]

lemma lines_addExpression (s : Session) (text : String) :
    (s.addExpression text).form.lines =
      s.form.lines ++ (Text.listed text.toList).map String.ofList := by
  rw [Query.lines_eq, Query.lines_eq, ← List.map_append, ← listed_appendLine]
  rfl

lemma lines_foldl_addExpression (s : Session) (texts : List String) :
    (texts.foldl addExpression s).form.lines =
      s.form.lines ++ texts.flatMap fun text => (Text.listed text.toList).map String.ofList := by
  induction texts generalizing s with
  | nil => simp
  | cons text texts ih =>
    rw [List.foldl_cons, ih, lines_addExpression, List.flatMap_cons, List.append_assoc]

/-- Adding a text to the form puts the lines of this text behind those that are there. Texts that are
added to an empty form are listed from the first to the last, each with its lines that are not blank,
without the blanks around them. -/
theorem added_expressions_listed (s : Session) :
    (∀ text, (s.addExpression text).form.lines =
      s.form.lines ++ ({ expressions := text } : Query).lines) ∧
    ∀ texts : List String, (texts.foldl addExpression s.clearExpressions).form.lines =
      texts.flatMap fun text => (Text.listed text.toList).map String.ofList := by
  constructor
  · intro text
    rw [lines_addExpression, Query.lines_eq { expressions := text }]
  · intro texts
    rw [lines_foldl_addExpression]
    rfl

/-! ### Requests for nothing -/

/-- A ticket is for expressions that are there, and these have a line unless they are blank. -/
def Submission.ListsUnlessBlank : Submission → Prop
  | issued ticket =>
    ticket.query.expressions ≠ "" ∧ (ticket.query.lines = [] ↔ ticket.query.IsBlank)
  | settled _ => True

lemma prepare_listsUnlessBlank (today : Date) (push : Bool) (s : Session) :
    (s.prepare today push).1.ListsUnlessBlank := by
  rcases prepare_cases today push s with ⟨error, -, heq⟩ | ⟨-, -, heq⟩ | ⟨-, hform, heq⟩
  · rw [heq]
    trivial
  · rw [heq]
    trivial
  · rw [heq]
    refine ⟨?_, Query.lines_eq_nil_iff s.form⟩
    intro hempty
    have hno : s.form.isEmpty = true := String.isEmpty_iff.2 hempty
    exact Bool.false_ne_true (hform.symm.trans hno)

lemma begin_listsUnlessBlank (today : Date) (push : Bool) (s : Session) :
    (s.begin today push).1.ListsUnlessBlank := by
  rcases begin_cases today push s with ⟨-, heq⟩ | ⟨-, heq⟩
  · rw [heq]
    trivial
  · rw [heq]
    exact prepare_listsUnlessBlank today push s

lemma Operation.begin_listsUnlessBlank (today : Date) (s : Session) (op : Operation) :
    (op.begin today s).1.ListsUnlessBlank := by
  obtain ⟨form, history, ⟨outcome, -, heq⟩ | heq | ⟨push, -, heq⟩⟩ := op.begin_cases today s
  all_goals rw [heq]
  · trivial
  · trivial
  · exact prepare_listsUnlessBlank today push _

/-- Only the form without any expressions is not worth a request. -/
lemma begin_eq_ignored_iff (today : Date) (push : Bool) (s : Session) :
    (s.begin today push).1 = .settled .ignored ↔
      s.submitEnabled = true ∧ DateRule.check s.form.date today.year = none ∧
        s.form.expressions = "" := by
  have hexpressions : s.form.isEmpty = true ↔ s.form.expressions = "" := String.isEmpty_iff
  rw [← hexpressions]
  rcases begin_cases today push s with ⟨hdisabled, hbegin⟩ | ⟨henabled, hbegin⟩
  · simp [hbegin, hdisabled]
  · rw [hbegin, henabled]
    rcases prepare_cases today push s with
      ⟨error, hdate, heq⟩ | ⟨hdate, hform, heq⟩ | ⟨hdate, hform, heq⟩
    · simp [heq, hdate]
    · simp [heq, hdate, hform]
    · simp [heq, hform]

lemma listing_of_complete {ticket : Ticket} {answer : Service.Answer} {report : DrawReport}
    (hdrawn : s.complete today ticket answer = (.drawn report, s')) :
    s'.view.listing = .ofExpressions ticket.query.lines := by
  by_cases hseq : ticket.seq = s.issued
  · rw [complete_of_seq_eq hseq] at hdrawn
    obtain ⟨firings, -, rfl⟩ := apply_eq_drawn hdrawn
    exact listing_display today ticket.query firings _
  · rw [complete_of_seq_ne hseq] at hdrawn
    cases hdrawn

/-- Requests, however they are begun, and what is drawn for them list at least one line, unless the
expressions are blank. Only a form without expressions is ignored, and a form of blanks is not. -/
theorem lists_unless_blank (today : Date) (s : Session) :
    (∀ push, (s.begin today push).1.ListsUnlessBlank) ∧
      (∀ op : Operation, (op.begin today s).1.ListsUnlessBlank) ∧
      (∀ push, (s.begin today push).1 = .settled .ignored ↔
        s.submitEnabled = true ∧ DateRule.check s.form.date today.year = none ∧
          s.form.expressions = "") ∧
      ∀ ticket answer report s', s.complete today ticket answer = (.drawn report, s') →
        (s'.view.listing = [] ↔ ticket.query.IsBlank) := by
  refine ⟨fun push => begin_listsUnlessBlank today push s, fun op => op.begin_listsUnlessBlank today s,
    fun push => begin_eq_ignored_iff today push s, ?_⟩
  intro ticket answer report s' hdrawn
  rw [listing_of_complete hdrawn, ← Query.lines_eq_nil_iff]
  exact List.map_eq_nil_iff

/-- The second line of the form is a blank that is no ASCII character. -/
theorem lists_unless_blank_two_lines :
    let s := (new .unixEpoch .utc).setExpressions "a\r\n\u00a0"
    ∃ ticket s' report s'', s.begin .unixEpoch true = (.issued ticket, s') ∧
      s'.complete .unixEpoch ticket (.ok (.rows [])) = (.drawn report, s'') ∧
      ticket.query.lines = ["a"] ∧ s''.view.listing ≠ [] := by
  intro s
  have hlisting := (lists_unless_blank .unixEpoch (s.begin .unixEpoch true).2).2.2.2
    { seq := 1, query := s.form } (.ok (.rows [])) _ _ rfl
  exact ⟨_, _, _, _, rfl, rfl, by decide, fun hnil => absurd (hlisting.1 hnil) (by decide)⟩

/-- A form of a space and a line feed is asked about, and the empty answer is displayed without a
listing. -/
theorem blank_form_asked :
    let s := (new .unixEpoch .utc).setExpressions " \n"
    ∃ ticket s' report s'', s.begin .unixEpoch true = (.issued ticket, s') ∧
      s'.complete .unixEpoch ticket (.ok (.rows [])) = (.drawn report, s'') ∧
      ticket.query.lines = [] ∧ s''.view.listing = [] :=
  ⟨_, _, _, _, rfl, rfl, by decide, by decide⟩

end Session

end CronHeatMap
