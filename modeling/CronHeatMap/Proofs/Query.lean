import CronHeatMap.Query
import CronHeatMap.Proofs.Text.Blank
import CronHeatMap.Proofs.Text.Form

/-!
# Queries and their locations

A query can be found again under its location: `ofLocation_location` holds for every query, whatever
its expressions and its date consist of. `reads_what_was_written` says the same for all the ways in
which a query is written, of which the body of a request spells out a date that is left blank.
-/

namespace CronHeatMap.Query

/-- The fields are told apart by their names. -/
lemma foldl_accept_pairs (q : Query) : q.pairs.foldl accept {} = q := by
  have hne : dateName ≠ expressionsName := by decide
  simp [pairs, accept, hne]

/-- A written query begins with a letter. -/
lemma dropMark_encode_pairs (q : Query) :
    dropMark (Text.Form.encode q.pairs) = Text.Form.encode q.pairs := by
  have hname : Text.Form.encodeText expressionsName = expressionsName := by decide
  simp only [Text.Form.encode, pairs, List.map_cons, List.intercalate_cons_cons,
    Text.Form.encodePair, hname]
  rfl

/-- Reading a query undoes writing it. -/
lemma ofForm_encode_pairs (q : Query) : ofForm (Text.Form.encode q.pairs) = q := by
  rw [ofForm, dropMark_encode_pairs, Text.Form.decode_encode, foldl_accept_pairs]

/-- A question mark in front makes no difference. -/
lemma ofForm_mark_encode_pairs (q : Query) : ofForm ('?' :: Text.Form.encode q.pairs) = q := by
  rw [ofForm, dropMark, Text.Form.decode_encode, foldl_accept_pairs]

/-! ### Locations -/

/-- A location may be preceded by anything that has no question mark. -/
lemma searchOf?_append_location (q : Query) {place : String} (hplace : '?' ∉ place.toList) :
    searchOf? (place ++ q.location) = some (Text.Form.encode q.pairs) := by
  have hlist : (place ++ q.location).toList = place.toList ++ '?' :: Text.Form.encode q.pairs := by
    simp [location, urlQuery]
  have hne : ∀ c ∈ place.toList, (c == '?') = false := by
    intro c hc
    exact beq_false_of_ne fun h => hplace (h ▸ hc)
  rw [searchOf?, hlist, Text.cutAt_append_cons hne (by decide)]
  rfl

lemma ofLocation_append_location (q : Query) {place : String} (hplace : '?' ∉ place.toList) :
    ofLocation (place ++ q.location) = q := by
  rw [ofLocation, searchOf?_append_location q hplace]
  exact ofForm_encode_pairs q

/-- The query at the location of a query is this query. -/
lemma ofLocation_location (q : Query) : ofLocation q.location = q := by
  simpa using ofLocation_append_location q (show '?' ∉ "".toList by simp)

/-! ### The body of a request -/

/-- The date that is meant is the one that is given, and today if that is blank. -/
lemma dated_eq (q : Query) :
    q.dated = if q.date.toList.all Text.isBlank then { q with date := today } else q := by
  have hhas : q.hasDate = true ↔ ¬ q.date.toList.all Text.isBlank = true := by
    rw [hasDate, List.all_eq_true, ← Text.trim_eq_nil_iff]
    simp
  rw [dated]
  split_ifs with hdate hblank hblank
  · exact absurd hblank (hhas.1 hdate)
  · rfl
  · rfl
  · exact absurd (hhas.2 hblank) hdate

/-- However a query is written, it is read as this query, and reading a location twice is reading it
once. Only the body of a request names the day that is meant where the date is blank. -/
theorem reads_what_was_written (q : Query) {place : String} (hplace : '?' ∉ place.toList) :
    ofUrlQuery q.urlQuery = q ∧
      ofUrlQuery ("?" ++ q.urlQuery) = q ∧
      ofLocation (place ++ q.location) = q ∧
      ofUrlQuery q.formBody =
        (if q.date.toList.all Text.isBlank then { q with date := today } else q) ∧
      ∀ l, ofLocation (ofLocation l).location = ofLocation l := by
  have hread : ∀ q : Query, ofUrlQuery q.urlQuery = q := by
    intro q
    rw [ofUrlQuery, urlQuery, String.toList_ofList]
    exact ofForm_encode_pairs q
  refine ⟨hread q, ?_, ofLocation_append_location q hplace, ?_, fun l => ofLocation_location _⟩
  · have hlist : ("?" ++ q.urlQuery).toList = '?' :: Text.Form.encode q.pairs := by
      simp [urlQuery]
    rw [ofUrlQuery, hlist]
    exact ofForm_mark_encode_pairs q
  · rw [← dated_eq]
    exact hread q.dated

/-- The expressions hold all that has a meaning in locations, and the date is a blank of its own. -/
theorem reads_what_was_written_at_root :
    let q : Query := { expressions := "a&b=c?d%41+é\r\n😀;", date := "\u00a0" }
    '?' ∉ "/".toList ∧ ofLocation ("/" ++ q.location) = q ∧
      ofUrlQuery q.formBody = { q with date := "today" } := by
  intro q
  have hplace : '?' ∉ "/".toList := by decide
  have hblank : q.date.toList.all Text.isBlank = true := by decide
  obtain ⟨-, -, hlocation, hbody, -⟩ := reads_what_was_written q hplace
  refine ⟨hplace, hlocation, ?_⟩
  rw [hbody, if_pos hblank]
  rfl

end CronHeatMap.Query
