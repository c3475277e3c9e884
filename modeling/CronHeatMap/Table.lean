import CronHeatMap.Firing
import CronHeatMap.Table.Delimited

/-!
# The table of firings

The first record of the table names the columns; each further record is a row. Columns are found by
name, in any order, and columns with other names are passed over. A row that is too short lacks its
last columns, which only a column of another name does not forgive; a name that heads two columns
spoils every row.

`Table.parse` reads a table and `Table.render` writes one.
-/

namespace CronHeatMap.Table

open Delimited (Place)

/-- The columns of the table. -/
inductive Column where
  | key
  | hour
  | minute
  | count
  | expressions
deriving Repr, DecidableEq

/-- The name that heads a column. -/
def Column.name : Column → String
  | .key => "key"
  | .hour => "h"
  | .minute => "m"
  | .count => "count"
  | .expressions => "expressions"

/-- The columns in the order in which they are written. -/
def Column.all : List Column := [.key, .hour, .minute, .count, .expressions]

/-- The column with a name. -/
def Column.ofName? (name : String) : Option Column := Column.all.find? (·.name = name)

/-- Puts the text of a column into a row. -/
def Column.fill (row : Row) (text : Option String) : Column → Row
  | .key => { row with key := text }
  | .hour => { row with hour := text }
  | .minute => { row with minute := text }
  | .count => { row with count := text }
  | .expressions => { row with expressions := text }

/-- Why a row cannot be matched with the columns. -/
inductive Fault where
  /-- Two columns have this name. -/
  | duplicateColumn (column : Column)
  /-- The row ends before a column of another name. -/
  | endOfRow
deriving Repr, DecidableEq

/-- A row that cannot be read: its number, counting the header as 0, and the place where the record
before it ended. -/
structure Error where
  record : Nat
  place : Place
  fault : Fault
deriving Repr, DecidableEq

/-- What is wrong with a row, in words. -/
def Fault.message : Fault → String
  | .duplicateColumn column => "duplicate field \x60" ++ column.name ++ "\x60"
  | .endOfRow => "expected field, but got end of row"

/-- Where and why reading the table stopped, in words. -/
def Error.message (e : Error) : String :=
  "CSV deserialize error: record " ++ Text.decimal e.record ++ " (line: " ++
    Text.decimal e.place.line ++ ", byte: " ++ Text.decimal e.place.byte ++ "): " ++ e.fault.message

/-- Matches the fields of a row with the names in the header, from left to right. `seen` holds the
columns already met. An empty field counts as missing, and fields beyond the header are ignored. -/
def matchFields (seen : List Column) (row : Row) : List String → List String → Except Fault Row
  | [], _ => .ok row
  | name :: names, fields =>
    match Column.ofName? name with
    | some column =>
      if column ∈ seen then .error (.duplicateColumn column)
      else
        matchFields (column :: seen) (column.fill row (fields.head?.filter (· ≠ "")))
          names fields.tail
    | none =>
      match fields with
      | [] => .error .endOfRow
      | _ :: rest => matchFields seen row names rest

/-- The row that a record holds under a header. -/
def rowOf (header fields : List String) : Except Fault Row := matchFields [] {} header fields

/-- The firings of the records from number `n` on. Rows without a firing are dropped; the first row
that does not fit the header is an error. -/
def firings (header : List String) (n : Nat) :
    List Delimited.Record → Except Error (List Firing)
  | [] => .ok []
  | record :: more =>
    match rowOf header record.fields with
    | .error fault => .error { record := n, place := record.place, fault }
    | .ok row => (firings header (n + 1) more).map fun rest => row.firing?.toList ++ rest

/-- Reads a table. A text without any record has no firings. -/
def parse (text : String) : Except Error (List Firing) :=
  match Delimited.records text.toList with
  | [] => .ok []
  | header :: rows => firings header.fields 1 rows

/-! ### Writing -/

/-- The fields of a row, in the order of the columns. -/
def fieldsOf (row : Row) : List String :=
  [row.key, row.hour, row.minute, row.count, row.expressions].map (·.getD "")

/-- The line that heads the table. -/
def headerLine : List Char :=
  (",".intercalate (Column.all.map Column.name)).toList ++ ['\n']

/-- Writes rows as a table in which every field is quoted. -/
def render (rows : List Row) : String :=
  String.ofList (headerLine ++ rows.flatMap fun row => Delimited.encodeRecord (fieldsOf row))

end CronHeatMap.Table
