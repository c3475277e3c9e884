import CronHeatMap.Table.Delimited
import Mathlib.Tactic.Common

/-!
# Reading delimited text that was written

A record in which every field is quoted is read as it was written, whatever its fields hold: inside
quotes, commas and line endings are ordinary characters, and the only character that could end the
field is doubled. After each record the reader stands where no record has been begun, so that
records on lines of their own are read one by one (`readFrom_lines`).
-/

namespace CronHeatMap.Delimited

variable {mode : Mode} {field : List Char} {fields : List String}

/-! ### What is read, apart from the places -/

/-- The fields of the records that are read from a text, when the reader has come to a mode, with
the characters of the open field and the fields before it, newest first. -/
def readFrom (mode : Mode) (field : List Char) (fields : List String) (cs : List Char) :
    List (List String) :=
  (Reader.records { origin := {}, here := {}, mode, field, fields } cs).map Record.fields

lemma fields_close (r : Reader) :
    r.close.fields = (String.ofList r.field.reverse :: r.fields).reverse := rfl

/-- The places that a reader has been at do not matter for the fields. -/
lemma map_fields_records_congr {r r' : Reader} (hmode : r.mode = r'.mode)
    (hfield : r.field = r'.field) (hfields : r.fields = r'.fields) (cs : List Char) :
    (r.records cs).map Record.fields = (r'.records cs).map Record.fields := by
  induction cs generalizing r r' with
  | nil =>
    rw [Reader.records, Reader.records, hmode]
    split_ifs
    · rfl
    · simp only [List.map_cons, List.map_nil, fields_close, hfield, hfields]
  | cons c cs ih =>
    simp only [Reader.records, hmode]
    cases r'.mode.effect c with
    | enter mode => exact ih rfl hfield hfields
    | keep mode => exact ih rfl (congrArg (c :: ·) hfield) hfields
    | endField => exact ih rfl rfl (by simp only [hfield, hfields])
    | endRecord =>
      rw [List.map_cons, List.map_cons, fields_close, fields_close, hfield, hfields]
      exact congrArg _ (ih rfl rfl rfl)

lemma map_fields_records (r : Reader) (cs : List Char) :
    (r.records cs).map Record.fields = readFrom r.mode r.field r.fields cs := by
  apply map_fields_records_congr
  all_goals rfl

@[simp] lemma readFrom_between_nil : readFrom .between field fields [] = [] := rfl

/-- What one character does. -/
lemma readFrom_cons (c : Char) (cs : List Char) : readFrom mode field fields (c :: cs) =
    match mode.effect c with
    | .enter mode => readFrom mode field fields cs
    | .keep mode => readFrom mode (c :: field) fields cs
    | .endField => readFrom .opening [] (String.ofList field.reverse :: fields) cs
    | .endRecord =>
      (String.ofList field.reverse :: fields).reverse :: readFrom .between [] [] cs := by
  rw [readFrom, Reader.records]
  dsimp only
  cases mode.effect c with
  | enter mode => exact map_fields_records ..
  | keep mode => exact map_fields_records ..
  | endField => exact map_fields_records ..
  | endRecord =>
    rw [List.map_cons]
    exact congrArg _ (map_fields_records ..)

/-! ### One field -/

/-- No field has been begun: a quote now opens one. -/
def Mode.IsStart (mode : Mode) : Prop := mode = .between ∨ mode = .opening

/-- Inside quotes, a text whose quotes are doubled is read as this text. -/
lemma readFrom_doubleQuotes (text cs : List Char) :
    readFrom .quoted field fields (doubleQuotes text ++ cs) =
      readFrom .quoted (text.reverse ++ field) fields cs := by
  induction text generalizing field with
  | nil => rfl
  | cons c text ih =>
    rw [List.reverse_cons, List.append_assoc, List.singleton_append, ← ih, doubleQuotes]
    split_ifs with hquote
    · rw [hquote, List.cons_append, List.cons_append, readFrom_cons]
      exact readFrom_cons ..
    · rw [List.cons_append, readFrom_cons]
      simp only [Mode.effect, if_neg hquote]

/-- A field in quotes is read as this field, and the reader is at its closing quote. -/
lemma readFrom_encodeField (hmode : mode.IsStart) (x : String) (cs : List Char) :
    readFrom mode [] fields (encodeField x ++ cs) =
      readFrom .closing x.toList.reverse fields cs := by
  have hopen : mode.effect '"' = .enter .quoted := by
    rcases hmode with rfl | rfl
    · rfl
    · rfl
  rw [encodeField, List.cons_append, readFrom_cons, hopen, List.append_assoc]
  dsimp only
  rw [readFrom_doubleQuotes, List.append_nil, List.singleton_append, readFrom_cons]
  rfl

/-! ### One record -/

/-- Fields in quotes are read as these fields, up to the character that ends the line. -/
lemma readFrom_encodeFields {xs : List String} (hne : xs ≠ []) (hmode : mode.IsStart) {c : Char}
    (hc : c = '\n' ∨ c = '\r') (cs : List Char) :
    readFrom mode [] fields (encodeFields xs ++ c :: cs) =
      (fields.reverse ++ xs) :: readFrom .between [] [] cs := by
  induction xs generalizing mode fields with
  | nil => exact absurd rfl hne
  | cons x xs ih =>
    cases xs with
    | nil =>
      have hend : Mode.closing.effect c = .endRecord := by
        rcases hc with rfl | rfl
        · rfl
        · rfl
      rw [encodeFields, readFrom_encodeField hmode, readFrom_cons, hend]
      simp
    | cons y ys =>
      have hcomma : Mode.closing.effect ',' = .endField := rfl
      have hcons : encodeFields (x :: y :: ys) =
        encodeField x ++ ',' :: encodeFields (y :: ys) := rfl
      rw [hcons, List.append_assoc, readFrom_encodeField hmode, List.cons_append, readFrom_cons,
        hcomma]
      dsimp only
      rw [ih (by simp) (Or.inr rfl)]
      simp

/-- How the lines of a text end. -/
inductive LineEnding where
  | lineFeed
  | carriageReturn
  | both
deriving Repr, DecidableEq

/-- The characters of a line ending. -/
def LineEnding.chars : LineEnding → List Char
  | lineFeed => ['\n']
  | carriageReturn => ['\r']
  | both => ['\r', '\n']

/-- A record on a line of its own, where lines end in a certain way. -/
def encodeLine (ending : LineEnding) (xs : List String) : List Char :=
  encodeFields xs ++ ending.chars

/-- A record on a line of its own is read, and no other one has been begun. -/
lemma readFrom_encodeLine (ending : LineEnding) {xs : List String} (hne : xs ≠ [])
    (cs : List Char) :
    readFrom .between [] [] (encodeLine ending xs ++ cs) = xs :: readFrom .between [] [] cs := by
  have hread : ∀ {c}, c = '\n' ∨ c = '\r' → ∀ cs, readFrom .between [] []
      (encodeFields xs ++ c :: cs) = xs :: readFrom .between [] [] cs := fun hc cs =>
    readFrom_encodeFields hne (Or.inl rfl) hc cs
  rw [encodeLine, List.append_assoc]
  cases ending with
  | lineFeed => exact hread (Or.inl rfl) cs
  | carriageReturn => exact hread (Or.inr rfl) cs
  | both =>
    -- The carriage return ends the record; the line feed after it is an empty line.
    calc readFrom .between [] [] (encodeFields xs ++ '\r' :: '\n' :: cs)
        = xs :: readFrom .between [] [] ('\n' :: cs) := hread (Or.inr rfl) ('\n' :: cs)
      _ = xs :: readFrom .between [] [] cs := by rw [readFrom_cons]; rfl

/-- Records on lines of their own are read as these records. -/
lemma readFrom_lines (ending : LineEnding) {rows : List (List String)}
    (hne : ∀ xs ∈ rows, xs ≠ []) :
    readFrom .between [] [] (rows.flatMap (encodeLine ending)) = rows := by
  induction rows with
  | nil => rfl
  | cons xs rows ih =>
    rw [List.forall_mem_cons] at hne
    rw [List.flatMap_cons, readFrom_encodeLine ending hne.1, ih hne.2]

end CronHeatMap.Delimited
