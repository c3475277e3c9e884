import CronHeatMap.Proofs.Console.Launch

/-!
# The form after launching

What is in the form once the first answer is there depends on the options and on the date of the
settings file. An address fills the form with its own query, and expressions fill it with themselves
and the date that is to be asked about. After that, this date is filled in wherever there are no
expressions, also in place of the date of an address (`launched_form`).
-/

namespace CronHeatMap.Launch

variable {options : Options} {f : SettingsFile} {l : Launch} {date : String} {q : Query}

/-! ### What is ready to start -/

lemma inConflict_of_parse {words : List String} (hparse : Options.parse words = .ok options) :
    options.inConflict = false := by
  simp only [Options.parse, bind, Except.bind] at hparse
  split at hparse
  · cases hparse
  · split_ifs at hparse with hconflict
    cases hparse
    simpa using hconflict

/-- An address excludes a date. -/
lemma date_of_parse_url {words : List String} {url : String}
    (hparse : Options.parse words = .ok options) (hurl : options.url = some url) :
    options.date = none := by
  have halone : options.date = none ∧ options.expressions = [] := by
    simpa [Options.inConflict, hurl] using inConflict_of_parse hparse
  exact halone.1

/-- The program is ready to start with some options and a settings file. The date to ask about is
the one given at launch, or else that of the file. -/
structure ReadyWith (options : Options) (f : SettingsFile) (l : Launch) : Prop where
  options_eq : l.options = options
  date_eq : l.date = f.resolveDate options.date

lemma exists_readyWith_of_prepare {env : Environment} {file : Option String}
    (hprepare : prepare options env file = .ok l) :
    ∃ f, fileOf? file = some f ∧ l.ReadyWith options f := by
  simp only [prepare] at hprepare
  split at hprepare
  · cases hprepare
  · split at hprepare
    · cases hprepare
    · cases hprepare
      exact ⟨_, ‹_›, rfl, rfl⟩

/-! ### Where the session starts -/

/-- The query of an address: of the form behind the slashes and the question mark at its front. -/
def queryOfUrl (url : String) : Query :=
  Query.ofForm (Query.dropMark (url.toList.dropWhile (· == '/')))

lemma ofLocation_below_root (cs : List Char) :
    Query.ofLocation (History.rootLocation ++ String.ofList ('?' :: cs)) = Query.ofForm cs := by
  have hlist : (History.rootLocation ++ String.ofList ('?' :: cs)).toList = ['/'] ++ '?' :: cs := by
    simp [History.rootLocation]
  have hslash : ∀ c ∈ ['/'], (c == '?') = false := List.forall_mem_singleton.2 rfl
  rw [Query.ofLocation, Query.searchOf?, hlist, Text.cutAt_append_cons hslash rfl]
  rfl

/-- An address leads to its query. -/
lemma ofLocation_locationOfUrl (url : String) :
    Query.ofLocation (locationOfUrl url) = queryOfUrl url := by
  rw [locationOfUrl, queryOfUrl]
  split
  · rename_i cs hcs
    rw [ofLocation_below_root, hcs]
    rfl
  · rename_i cs hcs
    rw [ofLocation_below_root, Query.dropMark]
    exact hcs

/-- Without an address and without expressions, the session starts with nothing. -/
lemma ofLocation_location_of_nil (hurl : options.url = none)
    (hexpressions : options.expressions = []) (date : String) :
    Query.ofLocation (location options date) = {} := by
  have hroot : location options date = History.rootLocation := by
    rw [location, hurl, hexpressions]
    rfl
  rw [hroot]
  decide

/-! ### The date -/

/-- A query after the date has been filled in, which is done if it has no expressions. -/
def filled (date : String) (q : Query) : Query :=
  if q.expressions = "" ∧ date ≠ "" then { q with date } else q

lemma form_fillDate (date : String) (s : Session) :
    (fillDate date s).form = filled date s.form := by
  have hempty : s.form.isEmpty = true ↔ s.form.expressions = "" := String.isEmpty_iff
  rw [fillDate, filled]
  simp only [hempty]
  split_ifs <;> rfl

lemma form_start (l : Launch) (today : Date) (answer : Service.Answer) :
    ((l.start today).resolve answer).2.form =
      filled l.date (Query.ofLocation (location l.options l.date)) := by
  rw [start, Turn.resolve_map, form_fillDate, Session.form_load]

lemma filled_queryOf (expressions : List String) (date : String) :
    filled date (queryOf expressions date) = queryOf expressions date := by
  rw [filled]
  split_ifs <;> rfl

lemma filled_empty (date : String) : filled date {} = queryOf [] date := by
  rw [filled]
  split_ifs with hdate
  · rfl
  · have hnone : date = "" := by simpa using hdate
    rw [hnone]
    rfl

/-- A query stays as it is if it has expressions, or if the date is missing or no other one. -/
lemma filled_eq_self_iff : filled date q = q ↔ q.expressions ≠ "" ∨ date = "" ∨ date = q.date := by
  rw [filled]
  split_ifs with hfill
  · obtain ⟨hexpressions, hdate⟩ := hfill
    have heq : ({ q with date } : Query) = q ↔ date = q.date := by
      cases q
      simp
    rw [heq]
    simp [hexpressions, hdate]
  · rw [not_and_or, not_not] at hfill
    simpa using hfill.imp_right Or.inl

/-- A query that does not stay as it is has no expressions, and the date afterwards. -/
lemma filled_of_ne (hne : filled date q ≠ q) : filled date q = { expressions := "", date } := by
  rw [filled] at hne ⊢
  split_ifs at hne ⊢ with hfill
  · rw [hfill.1]
  · exact absurd rfl hne

namespace ReadyWith

lemma form_start (h : l.ReadyWith options f) (today : Date) (answer : Service.Answer) :
    ((l.start today).resolve answer).2.form =
      filled (f.resolveDate options.date)
        (Query.ofLocation (location options (f.resolveDate options.date))) := by
  rw [Launch.form_start, h.options_eq, h.date_eq]

/-- The form after launching with an address and no other date than that of the settings file. -/
lemma form_start_of_url (h : l.ReadyWith options f) {url : String} (hurl : options.url = some url)
    (hdate : options.date = none) (today : Date) (answer : Service.Answer) :
    ((l.start today).resolve answer).2.form =
      filled (f.defaultDate.getD "") (queryOfUrl url) := by
  rw [h.form_start, location, hurl, hdate]
  exact congrArg _ (ofLocation_locationOfUrl url)

/-- The form after launching without an address. -/
lemma form_start_of_expressions (h : l.ReadyWith options f) (hurl : options.url = none)
    (today : Date) (answer : Service.Answer) :
    ((l.start today).resolve answer).2.form =
      queryOf options.expressions (f.resolveDate options.date) := by
  rw [h.form_start]
  by_cases hexpressions : options.expressions = []
  · rw [ofLocation_location_of_nil hurl hexpressions, filled_empty, hexpressions]
  · rw [(opens_expressions hurl hexpressions _).1, filled_queryOf]

end ReadyWith

/-- A program that gets ready does so with its options and its settings file. If it starts with an
address, then the address's query is in the form once the first answer is there, whatever the answer
is, but for the date: if the query has no expressions, the date of the settings file comes in place
of its own, unless it is missing. Without an address, there are the expressions given at launch and
the date given there, or else the one of the settings file. -/
theorem launched_form {words : List String} (hparse : Options.parse words = .ok options) :
    (∀ env file l, prepare options env file = .ok l →
      ∃ f, fileOf? file = some f ∧ l.ReadyWith options f) ∧
      ∀ (f : SettingsFile) (l : Launch), l.ReadyWith options f → ∀ today answer,
        let form := ((l.start today).resolve answer).2.form
        (∀ url, options.url = some url →
          (form = queryOfUrl url ↔ (queryOfUrl url).expressions ≠ "" ∨
            f.defaultDate.getD "" = "" ∨ f.defaultDate.getD "" = (queryOfUrl url).date) ∧
          (form ≠ queryOfUrl url → form = { expressions := "", date := f.defaultDate.getD "" })) ∧
        (options.url = none →
          form = queryOf options.expressions ((options.date <|> f.defaultDate).getD "")) := by
  refine ⟨fun env file l => exists_readyWith_of_prepare, ?_⟩
  intro f l hready today answer form
  constructor
  · intro url hurl
    have hform : form = filled (f.defaultDate.getD "") (queryOfUrl url) :=
      hready.form_start_of_url hurl (date_of_parse_url hparse hurl) today answer
    rw [hform]
    exact ⟨filled_eq_self_iff, filled_of_ne⟩
  · intro hurl
    exact hready.form_start_of_expressions hurl today answer

/-- One launch with an address and one with expressions, and the date of the settings file in the
form of the second one only. -/
theorem launched_form_with_default_date :
    let f : SettingsFile := { defaultDate := some "2019-01-01" }
    let shared : Launch :=
      { options := { url := some "//?expressions=a&date=2020-07-12" }, settings := f.settings
        zone := .utc, date := "2019-01-01" }
    let typed : Launch :=
      { options := { expressions := ["a", "b"] }, settings := f.settings, zone := .utc
        date := "2019-01-01" }
    Options.parse ["--url", "//?expressions=a&date=2020-07-12"] = .ok shared.options ∧
      Options.parse ["-e", "a", "--expression=b"] = .ok typed.options ∧
      ∀ today answer,
        ((shared.start today).resolve answer).2.form = { expressions := "a", date := "2020-07-12" } ∧
        ((typed.start today).resolve answer).2.form =
          { expressions := "a\nb", date := "2019-01-01" } := by
  intro f shared typed
  have hshared : Options.parse ["--url", "//?expressions=a&date=2020-07-12"] =
      .ok shared.options := by decide
  have htyped : Options.parse ["-e", "a", "--expression=b"] = .ok typed.options := by decide
  have hquery : queryOfUrl "//?expressions=a&date=2020-07-12" =
      { expressions := "a", date := "2020-07-12" } := by decide +kernel
  refine ⟨hshared, htyped, ?_⟩
  intro today answer
  constructor
  · obtain ⟨hform, -⟩ :=
      ((launched_form hshared).2 f shared ⟨rfl, rfl⟩ today answer).1 _ rfl
    rw [hquery] at hform
    exact hform.2 (.inl (by decide))
  · exact ((launched_form htyped).2 f typed ⟨rfl, rfl⟩ today answer).2 rfl

/-- An address that has a date and no expressions loses its date to the settings file. -/
theorem default_date_replaces_own :
    let words := ["--once", "--url", "?date=2020-07-12"]
    let file := "default_date = \"2019-01-01\"\n"
    let options : Options := { url := some "?date=2020-07-12", once := true }
    let f : SettingsFile := { defaultDate := some "2019-01-01" }
    let l : Launch := { options, settings := f.settings, zone := .utc, date := "2019-01-01" }
    Options.parse words = .ok options ∧ fileOf? (some file) = some f ∧ l.ReadyWith options f ∧
      queryOfUrl "?date=2020-07-12" = { expressions := "", date := "2020-07-12" } ∧
      ∀ today answer, ((l.start today).resolve answer).2.form =
        { expressions := "", date := "2019-01-01" } := by
  intro words file options f l
  have hready : l.ReadyWith options f := ⟨rfl, rfl⟩
  have hquery : queryOfUrl "?date=2020-07-12" = { expressions := "", date := "2020-07-12" } := by
    decide +kernel
  refine ⟨by decide, by decide +kernel, hready, hquery, ?_⟩
  intro today answer
  have hform := hready.form_start_of_url rfl rfl today answer
  rw [hquery] at hform
  exact hform

end CronHeatMap.Launch
