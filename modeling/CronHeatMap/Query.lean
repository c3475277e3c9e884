import CronHeatMap.Text.Blank
import CronHeatMap.Text.Form

/-!
# Queries

What is asked for: cron expressions, one on each line, and a date. A query has a location, under
which it can be found again, and a request body, with which its answer is asked for.
-/

namespace CronHeatMap

/-- What is asked for, as typed. -/
structure Query where
  expressions : String := ""
  date : String := ""
deriving Repr, DecidableEq, Inhabited

namespace Query

/-- The word for the current day. -/
def today : String := "today"

/-- The name of the expressions in forms. -/
def expressionsName : List Char := "expressions".toList

/-- The name of the date in forms. -/
def dateName : List Char := "date".toList

/-- No expressions are given. -/
def isEmpty (q : Query) : Bool := q.expressions.isEmpty

/-- The expressions asked about: the lines that are not blank, without the blanks around them. -/
def lines (q : Query) : List String :=
  (((Text.lines q.expressions.toList).map Text.trim).filter (!·.isEmpty)).map String.ofList

/-! ### Writing -/

/-- Both fields as a form. -/
def pairs (q : Query) : List (List Char × List Char) :=
  [(expressionsName, q.expressions.toList), (dateName, q.date.toList)]

/-- The query as part of a location. -/
def urlQuery (q : Query) : String := String.ofList (Text.Form.encode q.pairs)

/-- The location of a query. -/
def location (q : Query) : String := "?" ++ q.urlQuery

/-- The date is given. -/
def hasDate (q : Query) : Bool := !(Text.trim q.date.toList).isEmpty

/-- The query with the date that is meant: a blank date is today. -/
def dated (q : Query) : Query := if q.hasDate then q else { q with date := today }

/-- The body of a request for the query. -/
def formBody (q : Query) : String := q.dated.urlQuery

/-! ### Reading -/

/-- Puts a pair of a form into a query. Pairs with other names are passed over. -/
def accept (q : Query) (pair : List Char × List Char) : Query :=
  if pair.1 = expressionsName then { q with expressions := String.ofList pair.2 }
  else if pair.1 = dateName then { q with date := String.ofList pair.2 }
  else q

/-- Drops one question mark at the front. -/
def dropMark : List Char → List Char
  | '?' :: cs => cs
  | cs => cs

/-- Reads a query from a form, which may have a question mark in front. The last value of a field
counts. -/
def ofForm (cs : List Char) : Query := (Text.Form.decode (dropMark cs)).foldl accept {}

/-- Reads a query from the part of a location that `urlQuery` writes. -/
def ofUrlQuery (text : String) : Query := ofForm text.toList

/-- The part of a location after its first question mark, if it has one. -/
def searchOf? (location : String) : Option (List Char) :=
  (Text.cutAt (· == '?') location.toList).map Prod.snd

/-- Reads the query of a location. A location without a question mark has the empty query. -/
def ofLocation (location : String) : Query := ((searchOf? location).map ofForm).getD {}

end Query

end CronHeatMap
