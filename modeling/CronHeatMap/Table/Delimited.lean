/-!
# Delimited text

Records of comma-separated fields after RFC 4180. A line feed, a carriage return or both in this
order end a record, and lines with nothing on them are no records. A field that begins with a double
quote runs to the next quote that is not doubled; elsewhere a quote is an ordinary character. Text
after the closing quote still belongs to the field.

`records` reads a text into records, each with the place where the one before it ended, and
`encodeRecord` writes a record with every field quoted.
-/

namespace CronHeatMap.Delimited

/-- A place in a text: the line it is on and the bytes of UTF-8 before it. -/
structure Place where
  line : Nat := 1
  byte : Nat := 0
deriving Repr, DecidableEq, Inhabited

/-- The place after one more character. Only a line feed begins a new line. -/
def Place.after (p : Place) (c : Char) : Place where
  line := if c = '\n' then p.line + 1 else p.line
  byte := p.byte + c.utf8Size

/-- What the reader is in the middle of. -/
inductive Mode where
  /-- Nothing of the next record has been seen. -/
  | between
  /-- A field begins here. -/
  | opening
  /-- Inside a field without quotes, or after the quotes of one. -/
  | plain
  /-- Inside quotes. -/
  | quoted
  /-- Right after a quote that either ends the quotes or is doubled. -/
  | closing
deriving Repr, DecidableEq

/-- What one character does to the record that is being read. -/
inductive Effect where
  /-- Only the mode changes. -/
  | enter (mode : Mode)
  /-- The character joins the field. -/
  | keep (mode : Mode)
  /-- The field is complete and another one begins. -/
  | endField
  /-- The field and its record are complete. -/
  | endRecord
deriving Repr, DecidableEq

/-- The effect of a character outside quotes, where `start` tells whether a field begins with it. -/
def unquoted (start : Bool) (c : Char) : Effect :=
  if c = ',' then .endField
  else if c = '\n' ∨ c = '\r' then .endRecord
  else if start ∧ c = '"' then .enter .quoted
  else .keep .plain

/-- The effect of a character in each mode. -/
def Mode.effect : Mode → Char → Effect
  | .between, c => if c = '\n' ∨ c = '\r' then .enter .between else unquoted true c
  | .opening, c => unquoted true c
  | .plain, c => unquoted false c
  | .quoted, c => if c = '"' then .enter .closing else .keep .quoted
  | .closing, c => if c = '"' then .keep .quoted else unquoted false c

/-- A record and the place where the one before it ended. -/
structure Record where
  place : Place
  fields : List String
deriving Repr, DecidableEq, Inhabited

/-- A record that is being read: where it was begun, where the reader is, and the characters of the
open field and the fields before it, newest first. -/
structure Reader where
  origin : Place
  here : Place
  mode : Mode := .between
  field : List Char := []
  fields : List String := []
deriving Repr, DecidableEq

/-- The fields read so far, the open one included. -/
def Reader.allFields (r : Reader) : List String :=
  (String.ofList r.field.reverse :: r.fields).reverse

/-- The record that ends here. -/
def Reader.close (r : Reader) : Record := { place := r.origin, fields := r.allFields }

/-- Reads the rest of a text. The end of the text ends a record that has been begun. -/
def Reader.records (r : Reader) : List Char → List Record
  | [] => if r.mode = .between then [] else [r.close]
  | c :: cs =>
    let here := r.here.after c
    match r.mode.effect c with
    | .enter mode => Reader.records { r with here, mode } cs
    | .keep mode => Reader.records { r with here, mode, field := c :: r.field } cs
    | .endField =>
      Reader.records
        { r with here, mode := .opening, field := [],
                 fields := String.ofList r.field.reverse :: r.fields } cs
    | .endRecord => r.close :: Reader.records { origin := here, here } cs

/-- The mark that may stand in front of a text to tell its byte order. -/
def byteOrderMark : Char := '\uFEFF'

/-- The records of a text. A byte order mark in front is passed over, though its bytes count. -/
def records : List Char → List Record
  | [] => []
  | c :: cs =>
    if c = byteOrderMark then
      let here : Place := Place.after {} c
      Reader.records { origin := here, here } cs
    else Reader.records { origin := {}, here := {} } (c :: cs)

/-! ### Writing -/

/-- Doubles the quotes of a field. -/
def doubleQuotes : List Char → List Char
  | [] => []
  | c :: cs => if c = '"' then '"' :: '"' :: doubleQuotes cs else c :: doubleQuotes cs

/-- A field in quotes. -/
def encodeField (field : String) : List Char := '"' :: (doubleQuotes field.toList ++ ['"'])

/-- The fields of a record in quotes, with commas between them. -/
def encodeFields : List String → List Char
  | [] => []
  | [field] => encodeField field
  | field :: more => encodeField field ++ ',' :: encodeFields more

/-- A record on a line of its own. -/
def encodeRecord (fields : List String) : List Char := encodeFields fields ++ ['\n']

end CronHeatMap.Delimited
