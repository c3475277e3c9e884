import CronHeatMap.Query

/-!
# History

The entries that have been visited, the way a tab of a browser keeps them: a log in order of time
with a cursor, which going back and going forward move.
-/

namespace CronHeatMap

/-- A visited entry. -/
structure Entry where
  /-- The query that is on display there, if one was recorded. -/
  state : Option Query := none
  location : String
deriving Repr, DecidableEq, Inhabited

/-- The part of the location after its first question mark. -/
def Entry.search (e : Entry) : String := String.ofList ((Query.searchOf? e.location).getD [])

/-- The visited entries, among which the cursor stands. -/
structure History where
  /-- The entries in order of time. -/
  log : List Entry
  /-- The place of the current entry in the log. -/
  cursor : Nat
  cursor_lt : cursor < log.length
deriving Repr, DecidableEq

namespace History

/-- The location where a session starts unless told otherwise. -/
def rootLocation : String := "/"

/-- The history with one entry, for which no query is recorded. -/
def ofLocation (location : String) : History :=
  { log := [{ location }], cursor := 0, cursor_lt := by simp }

/-- The history at the root. -/
def root : History := ofLocation rootLocation

instance : Inhabited History := ⟨root⟩

/-- The number of entries. -/
def size (h : History) : Nat := h.log.length

/-- The entry at the cursor. -/
def current (h : History) : Entry := h.log.get ⟨h.cursor, h.cursor_lt⟩

/-- The location of the current entry. -/
def location (h : History) : String := h.current.location

/-- Goes on to a new entry, which drops those after the current one. -/
def push (h : History) (e : Entry) : History :=
  let kept := h.log.take (h.cursor + 1)
  { log := kept ++ [e], cursor := kept.length, cursor_lt := by simp }

/-- Goes on to the location of a query, unless the current entry is for this query. -/
def visit (h : History) (q : Query) : History :=
  if h.current.state = some q then h else h.push { state := some q, location := q.location }

/-- Goes on to the root for the empty query, unless the current location has no query. -/
def visitRoot (h : History) : History :=
  if h.current.search = "" then h else h.push { state := some {}, location := rootLocation }

/-- Records another query for the current entry. -/
def replace (h : History) (state : Option Query) : History :=
  { h with
    log := h.log.set h.cursor { h.current with state }
    cursor_lt := by simpa using h.cursor_lt }

/-- There is an entry to go back to. -/
def canGoBack (h : History) : Bool := decide (0 < h.cursor)

/-- There is an entry to go forward to. -/
def canGoForward (h : History) : Bool := decide (h.cursor + 1 < h.log.length)

/-- Goes back to the entry before the current one, if there is one. -/
def back? (h : History) : Option History :=
  if h.cursor = 0 then none
  else some { h with cursor := h.cursor - 1, cursor_lt := Nat.lt_of_le_of_lt (by omega) h.cursor_lt }

/-- Goes forward to the entry after the current one, if there is one. -/
def forward? (h : History) : Option History :=
  if next : h.cursor + 1 < h.log.length then some { h with cursor := h.cursor + 1, cursor_lt := next }
  else none

/-- One of the two ways through the history. -/
inductive Direction where
  | back
  | forward
deriving Repr, DecidableEq

/-- Goes to the neighbouring entry in a direction, if there is one. -/
def step? (h : History) : Direction → Option History
  | .back => h.back?
  | .forward => h.forward?

end History

end CronHeatMap
