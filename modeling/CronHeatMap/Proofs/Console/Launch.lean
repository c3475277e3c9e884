import CronHeatMap.Console.Launch
import CronHeatMap.Proofs.Session.Visits

/-!
# Launching at a location that was shared

The locations in the history of a session come in three spellings: the root, the location where the
session was launched, and the location of a query, which does not begin with a slash. Each of them
can be given as an address to a new session, which starts with the query that is there
(`shared_location_reopens`).
-/

namespace CronHeatMap.Launch

variable {options : Options} {date : String} {q : Query}

/-! ### Addresses -/

lemma locationOfUrl_of_dropWhile {url : String} {cs : List Char}
    (hurl : url.toList.dropWhile (· == '/') = '?' :: cs) :
    locationOfUrl url = History.rootLocation ++ String.ofList ('?' :: cs) := by
  rw [locationOfUrl, hurl]
  rfl

/-- The location for an address is that of the root with a question mark behind it. -/
lemma exists_locationOfUrl_eq (url : String) :
    ∃ cs, locationOfUrl url = History.rootLocation ++ String.ofList ('?' :: cs) := by
  rw [locationOfUrl]
  split
  · exact ⟨_, rfl⟩
  · exact ⟨_, rfl⟩

/-- Such a location is its own address. -/
lemma locationOfUrl_eq_self (cs : List Char) :
    locationOfUrl (History.rootLocation ++ String.ofList ('?' :: cs)) =
      History.rootLocation ++ String.ofList ('?' :: cs) :=
  locationOfUrl_of_dropWhile (by simp [History.rootLocation])

/-- The location of a query is an address for itself below the root. -/
lemma locationOfUrl_location (q : Query) :
    locationOfUrl q.location = History.rootLocation ++ q.location := by
  have hlocation : q.location = String.ofList ('?' :: q.urlQuery.toList) := by
    rw [Query.location, String.ofList_cons, String.ofList_toList]
    rfl
  rw [hlocation]
  exact locationOfUrl_of_dropWhile (by simp)

/-- An address that does not begin with a hyphen is taken for the value of its option. -/
lemma parse_url {url : String} {c : Char} {cs : List Char} (hurl : url.toList = c :: cs)
    (hc : c ≠ '-') : Options.parse ["--url", url] = .ok { url := some url } := by
  have hend : url ≠ Options.endOfOptions := by
    rintro rfl
    exact hc (List.cons.inj hurl).1.symm
  have hname : ({} : Options.Progress).word "--url".toList =
      .ok { pending := some (.url, none) } := by
    rfl
  have hvalue : ({ pending := some (.url, none) } : Options.Progress).word url.toList =
      .ok { pending := some (.url, some url) } := by
    rw [hurl, Options.Progress.word]
    · rw [← hurl, String.ofList_toList]
    · intro name hlong
      exact hc (List.cons.inj hlong).1
    · intro letter rest hshort
      exact hc (List.cons.inj hshort).1
    · rfl
  have hread : Options.readWords {} ["--url", url] = .ok { url := some url } := by
    rw [Options.readWords, if_neg (by decide), hname, Except.bind, Options.readWords,
      if_neg hend, hvalue]
    rfl
  rw [Options.parse, hread]
  rfl

/-! ### Locations that can be shared -/

/-- The location can be given as an address on the command line, and the address leads to the query
that is at the location. -/
structure Shareable (location : String) : Prop where
  parse_eq : Options.parse ["--url", location] = .ok { url := some location }
  reopens : Query.ofLocation (locationOfUrl location) = Query.ofLocation location

lemma shareable_root : Shareable History.rootLocation where
  parse_eq := by decide
  reopens := by decide

/-- A location below the root with a question mark behind it. -/
lemma shareable_below_root (cs : List Char) :
    Shareable (History.rootLocation ++ String.ofList ('?' :: cs)) where
  parse_eq := by
    have hlist : (History.rootLocation ++ String.ofList ('?' :: cs)).toList = '/' :: '?' :: cs := by
      simp [History.rootLocation]
    exact parse_url hlist (by decide)
  reopens := by rw [locationOfUrl_eq_self]

lemma shareable_location (q : Query) : Shareable q.location where
  parse_eq := by
    have hlist : q.location.toList = '?' :: q.urlQuery.toList := by simp [Query.location]
    exact parse_url hlist (by decide)
  reopens := by
    -- In front of its question mark, the address has a slash, which is not read.
    rw [locationOfUrl_location, Query.ofLocation_location]
    exact Query.ofLocation_append_location q (by decide)

/-- The location where a session is launched. -/
lemma shareable_launched (options : Options) (date : String) :
    Shareable (location options date) := by
  rw [location]
  split
  · obtain ⟨cs, heq⟩ := exists_locationOfUrl_eq ‹String›
    rw [heq]
    exact shareable_below_root cs
  · split_ifs
    · exact shareable_root
    · rw [← locationOfUrl_location]
      obtain ⟨cs, heq⟩ := exists_locationOfUrl_eq (queryOf options.expressions date).location
      rw [heq]
      exact shareable_below_root cs

/-! ### Sessions -/

/-- A session that is launched starts at a location of the query, and has it in its form. -/
def Opens (options : Options) (date : String) (q : Query) : Prop :=
  Query.ofLocation (location options date) = q ∧
    ∀ today zone answer,
      (((Session.new today zone).load today (location options date)).resolve answer).2.form = q

lemma opens_of_eq (h : Query.ofLocation (location options date) = q) : Opens options date q :=
  ⟨h, fun today _ answer => (Session.form_load today _ _ answer).trans h⟩

lemma opens_expressions (hurl : options.url = none) (hexpressions : options.expressions ≠ [])
    (date : String) : Opens options date (queryOf options.expressions date) := by
  apply opens_of_eq
  rw [location, hurl]
  simp only [List.isEmpty_iff, hexpressions, if_false]
  exact Query.ofLocation_append_location _ (by decide)

@[simp] lemma history_fillDate (date : String) (s : Session) :
    (fillDate date s).history = s.history := by
  rw [fillDate]
  split_ifs <;> rfl

/-- Where the action starts the session over, a session can be launched. -/
def Permits : Session.Action → Prop
  | .carryOut (.load location) _ => ∃ options date, location = Launch.location options date
  | _ => True

/-- What histories keep, and what holds of them when a session is launched, holds of the history of
a session that was launched, also if it starts over where sessions are launched. -/
lemma run_history {I : History → Prop} (hI : History.Kept I) (hroot : I .root)
    (hlaunched : ∀ options date, I ((History.ofLocation (location options date)).replace
      (some (Query.ofLocation (location options date)))))
    {l : Launch} {today : Date} {answer : Service.Answer} {trace : List Session.Event} {s : Session}
    (run : Session.Run ((l.start today).resolve answer).2 trace s)
    (hactions : ∀ e ∈ trace, Permits e.action) : I s.history := by
  refine run.invariant_of (I := fun s => I s.history) hactions ?_ ?_
  · rw [start, Turn.resolve_map, history_fillDate]
    refine Session.act_history (s := .new today l.zone) hI hroot today
      (.carryOut (.load (location l.options l.date)) answer) ?_
    rintro _ _ ⟨⟩
    exact hlaunched l.options l.date
  · intro today s action hpermits hs
    refine Session.act_history hI hs today action ?_
    rintro _ answer rfl
    obtain ⟨options, date, rfl⟩ := hpermits
    exact hlaunched options date

/-- In a session that was launched, the current location can be given as an address, and then a
session starts with the query that is there, which is the one of the current entry if it has any.
A session that is launched with expressions starts with these and the date. -/
theorem shared_location_reopens {l : Launch} {today : Date} {answer : Service.Answer}
    {trace : List Session.Event} {s : Session}
    (run : Session.Run ((l.start today).resolve answer).2 trace s)
    (hactions : ∀ e ∈ trace, Permits e.action) :
    Options.parse ["--url", s.history.location] = .ok { url := some s.history.location } ∧
      (∀ options date, options.url = some s.history.location →
        Opens options date (Query.ofLocation s.history.location)) ∧
      (∀ q, s.history.current.state = some q → q = Query.ofLocation s.history.location) ∧
      ∀ options date, options.url = none → options.expressions ≠ [] →
        Opens options date (queryOf options.expressions date) := by
  have hcoherent : s.history.Coherent :=
    run_history History.kept_coherent .root (fun _ _ => .loaded _) run hactions
  have hshareable : ∀ e ∈ s.history.log, Shareable e.location := by
    refine run_history (History.kept_locations shareable_location shareable_root) ?_ ?_ run hactions
    · exact List.forall_mem_singleton.2 shareable_root
    · intro options date
      exact List.forall_mem_singleton.2 (shareable_launched options date)
  have hcurrent : Shareable s.history.location := hshareable _ s.history.current_mem_log
  refine ⟨hcurrent.parse_eq, ?_, ?_, ?_⟩
  · intro options date hurl
    apply opens_of_eq
    rw [location, hurl]
    exact hcurrent.reopens
  · intro q hstate
    exact (hcoherent.ofLocation_location hstate).symm
  · intro options date hurl hexpressions
    exact opens_expressions hurl hexpressions date

/-- Launched at an address with slashes and a second question mark, the session is left for a query
that has such characters itself. -/
theorem shared_location_reopens_pushed :
    ∃ (l : Launch) (trace : List Session.Event) (s : Session),
      Session.Run ((l.start .unixEpoch).resolve (.ok (.rows []))).2 trace s ∧
      (∀ e ∈ trace, Permits e.action) ∧
      s.history.log.map Entry.location =
        ["/?expressions=a?b&date=", "?expressions=%2Fx%3Fy&date="] ∧
      Opens { url := some s.history.location } "" { expressions := "/x?y" } := by
  let l : Launch :=
    { options := { url := some "//?expressions=a?b&date=" }, settings := {}, zone := .utc, date := "" }
  let launched := ((l.start .unixEpoch).resolve (.ok (.rows []))).2
  have typed := (Session.Run.nil : Session.Run launched [] _).cons .unixEpoch
    (.type (.setExpressions "/x?y")) trivial
  have left := typed.cons .unixEpoch (.carryOut .submit (.ok (.rows []))) trivial
  obtain ⟨-, hopens, hstate, -⟩ := shared_location_reopens left (by simp [Permits])
  refine ⟨l, _, _, left, by simp [Permits], by decide, ?_⟩
  rw [hstate { expressions := "/x?y" } (by decide)]
  exact hopens _ "" rfl

end CronHeatMap.Launch
