import CronHeatMap.Table
import CronHeatMap.Proofs.Firing
import CronHeatMap.Proofs.Table.Delimited

/-!
# Reading tables that were written

A table in which every field is quoted is read row by row: each row gives its firing or nothing,
whatever its columns hold and whatever the other rows are (`parse_renderWith`). Well-formed firings
are therefore read as they were written.
-/

namespace CronHeatMap

/-- The row without the columns that are empty. -/
def Row.stripped (row : Row) : Row where
  key := row.key.filter (· ≠ "")
  hour := row.hour.filter (· ≠ "")
  minute := row.minute.filter (· ≠ "")
  count := row.count.filter (· ≠ "")
  expressions := row.expressions.filter (· ≠ "")

/-- An empty column says no more than a missing one. -/
@[simp] lemma Row.firing?_stripped (row : Row) : row.stripped.firing? = row.firing? := by
  simp only [firing?, stripped, number?, present?_filter]

namespace Table

open Delimited (LineEnding encodeLine readFrom readFrom_cons readFrom_lines)

/-! ### The header -/

/-- The names of the columns, as they head a table. -/
def names : List String := Column.all.map Column.name

/-- The names of the columns with commas between them. -/
def header : List Char := (",".intercalate names).toList

lemma header_eq : header = "key,h,m,count,expressions".toList := by
  decide

/-- The header is read as the names of the columns. -/
lemma readFrom_header (ending : LineEnding) (cs : List Char) :
    readFrom .between [] [] (header ++ ending.chars ++ cs) =
      names :: readFrom .between [] [] cs := by
  have hread : ∀ {c}, c = '\n' ∨ c = '\r' → ∀ cs, readFrom .between [] [] (header ++ c :: cs) =
      names :: readFrom .between [] [] cs := by
    intro c hc cs
    rw [header_eq]
    rcases hc with rfl | rfl
    · simp [readFrom_cons, Delimited.Mode.effect, Delimited.unquoted]
      rfl
    · simp [readFrom_cons, Delimited.Mode.effect, Delimited.unquoted]
      rfl
  rw [List.append_assoc]
  cases ending with
  | lineFeed => exact hread (Or.inl rfl) cs
  | carriageReturn => exact hread (Or.inr rfl) cs
  | both =>
    calc readFrom .between [] [] (header ++ '\r' :: '\n' :: cs)
        = names :: readFrom .between [] [] ('\n' :: cs) := hread (Or.inr rfl) ('\n' :: cs)
      _ = names :: readFrom .between [] [] cs := by rw [readFrom_cons]; rfl

/-! ### Rows -/

@[simp] lemma Column.ofName?_name (column : Column) : Column.ofName? column.name = some column := by
  cases column
  all_goals rfl

/-- The fields of a row are found again under the names of the columns. -/
lemma rowOf_fieldsOf (row : Row) : rowOf names (fieldsOf row) = .ok row.stripped := by
  have hfilter : ∀ o : Option String, (some (o.getD "")).filter (· ≠ "") = o.filter (· ≠ "") := by
    intro o
    cases o with
    | none => rfl
    | some text => rfl
  calc rowOf names (fieldsOf row)
      = .ok { key := (some (row.key.getD "")).filter (· ≠ "")
              hour := (some (row.hour.getD "")).filter (· ≠ "")
              minute := (some (row.minute.getD "")).filter (· ≠ "")
              count := (some (row.count.getD "")).filter (· ≠ "")
              expressions := (some (row.expressions.getD "")).filter (· ≠ "") } := by
        simp [rowOf, names, Column.all, fieldsOf, matchFields, Column.fill]
    _ = .ok row.stripped := by simp only [hfilter, Row.stripped]

/-- Records that hold the fields of rows give the firings of these rows. -/
lemma firings_of_fields {records : List Delimited.Record} {rows : List Row}
    (h : records.map Delimited.Record.fields = rows.map fieldsOf) (n : Nat) :
    firings names n records = .ok (rows.filterMap Row.firing?) := by
  induction rows generalizing records n with
  | nil =>
    rw [List.map_nil, List.map_eq_nil_iff] at h
    rw [h]
    rfl
  | cons row rows ih =>
    obtain ⟨record, more, rfl, hrecord, hmore⟩ := List.map_eq_cons_iff.1 h
    rw [firings, hrecord, rowOf_fieldsOf]
    dsimp only
    rw [ih hmore, Row.firing?_stripped, List.filterMap_cons]
    cases row.firing? with
    | none => rfl
    | some f => rfl

/-- What is read from records is read from rows. -/
lemma exists_row_of_firings {header : List String} {records : List Delimited.Record} {n : Nat}
    {fs : List Firing} (h : firings header n records = .ok fs) :
    ∀ f ∈ fs, ∃ row : Row, row.firing? = some f := by
  induction records generalizing n fs with
  | nil =>
    cases h
    simp
  | cons record more ih =>
    rw [firings] at h
    cases hrow : rowOf header record.fields with
    | error fault =>
      rw [hrow] at h
      cases h
    | ok row =>
      cases hmore : firings header (n + 1) more with
      | error e =>
        rw [hrow, hmore] at h
        cases h
      | ok rest =>
        rw [hrow, hmore] at h
        cases h
        rw [List.forall_mem_append]
        exact ⟨fun f hf => ⟨row, Option.mem_toList.1 hf⟩, ih hmore⟩

/-! ### Tables -/

/-- Nothing but well-formed firings is read from a table. -/
lemma wellFormed_of_parse {text : String} {fs : List Firing} (h : parse text = .ok fs) :
    ∀ f ∈ fs, f.WellFormed := by
  rw [parse] at h
  cases hrecords : Delimited.records text.toList with
  | nil =>
    rw [hrecords] at h
    cases h
    simp
  | cons header rows =>
    rw [hrecords] at h
    intro f hf
    obtain ⟨row, hrow⟩ := exists_row_of_firings h f hf
    exact Row.wellFormed_of_firing? hrow

/-- Writes rows as a table in which every field is quoted and lines end in a certain way. -/
def renderWith (ending : LineEnding) (rows : List Row) : String :=
  String.ofList (header ++ ending.chars ++ (rows.map fieldsOf).flatMap (encodeLine ending))

lemma renderWith_lineFeed (rows : List Row) : renderWith .lineFeed rows = render rows := by
  rw [renderWith, render, List.flatMap_map]
  rfl

/-- The names and the rows are read record by record. -/
lemma records_renderWith (ending : LineEnding) (rows : List Row) :
    (Delimited.records (renderWith ending rows).toList).map Delimited.Record.fields =
      names :: rows.map fieldsOf := by
  have hfields : ∀ fields ∈ rows.map fieldsOf, fields ≠ [] := by
    rw [List.forall_mem_map]
    intro row _
    simp [fieldsOf]
  have hmark : ∀ cs, Delimited.records (header ++ cs) =
      Delimited.Reader.records { origin := {}, here := {} } (header ++ cs) := by
    intro cs
    obtain ⟨tail, htail⟩ : ∃ tail, header = 'k' :: tail :=
      ⟨"ey,h,m,count,expressions".toList, by decide⟩
    rw [htail]
    rfl
  rw [renderWith, String.toList_ofList, List.append_assoc, hmark, Delimited.map_fields_records,
    ← List.append_assoc, readFrom_header, readFrom_lines ending hfields]

/-- Each row gives its firing or nothing. -/
lemma parse_rows (ending : LineEnding) (rows : List Row) :
    parse (renderWith ending rows) = .ok (rows.filterMap Row.firing?) := by
  obtain ⟨first, more, hrecords, hfirst, hmore⟩ :=
    List.map_eq_cons_iff.1 (records_renderWith ending rows)
  rw [parse, hrecords]
  dsimp only
  rw [hfirst]
  exact firings_of_fields hmore 1

/-- Whatever the columns of rows hold, the table of these rows has their firings: a row without a
firing does not affect the others. Firings come back as they are exactly if they are well-formed. -/
theorem parse_renderWith (ending : LineEnding) (rows : List Row) (fs : List Firing) :
    parse (renderWith ending rows) = .ok (rows.filterMap Row.firing?) ∧
      (parse (renderWith ending (fs.map Row.ofFiring)) = .ok fs ↔ ∀ f ∈ fs, f.WellFormed) := by
  refine ⟨parse_rows ending rows, ?_⟩
  rw [parse_rows, Except.ok.injEq]
  constructor
  · intro hfs f hf
    rw [← hfs] at hf
    obtain ⟨row, -, hrow⟩ := List.mem_filterMap.1 hf
    exact Row.wellFormed_of_firing? hrow
  · intro hfs
    rw [List.filterMap_map]
    calc fs.filterMap (Row.firing? ∘ Row.ofFiring)
        = fs.filterMap some := List.filterMap_congr fun f hf => Row.firing?_ofFiring (hfs f hf)
      _ = fs := List.filterMap_some

example :
    let row : Row :=
      { key := "\"a\",\r\nb", hour := "9", minute := " 5", count := "2", expressions := "x\ny" }
    parse (renderWith .both [row, { key := "c" }]) =
      .ok [{ key := "\"a\",\r\nb", hour := 9, minute := 5, count := 2,
             expressions := ["x", "y"] }] := by
  decide +kernel

end Table

end CronHeatMap
