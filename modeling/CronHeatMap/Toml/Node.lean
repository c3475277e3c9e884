/-!
# TOML documents as trees

A document is a table of nodes. A table remembers how it came about, because that decides what may
still be added to it: a table with a header of its own, or one that was only implied by the header
of another; a table that dotted keys have made; a table that was written inline.
-/

namespace CronHeatMap.Toml

/-- A value without parts. Numbers with a fraction and dates keep the text they were written as. -/
inductive Scalar where
  | string (text : String)
  | integer (n : Int)
  | float (literal : String)
  | boolean (b : Bool)
  | datetime (literal : String)
deriving Repr, DecidableEq

/-- How a table came about. -/
inductive Origin where
  /-- By a header of its own. -/
  | defined
  /-- By the header of a table within it. -/
  | implied
  /-- By dotted keys. -/
  | dotted
  /-- Inline. -/
  | closed
deriving Repr, DecidableEq

/-- A node of a document. -/
inductive Node where
  | scalar (s : Scalar)
  | array (items : List Node)
  | table (origin : Origin) (entries : List (String × Node))
  /-- The tables that headers in double brackets have begun, latest first. -/
  | tables (latestFirst : List (List (String × Node)))
deriving Inhabited

/-- The entries of a table. -/
abbrev Entries := List (String × Node)

namespace Entries

/-- Changes the node with a key, or puts in one if there is none. -/
def alter? (key : String) (f : Option Node → Option Node) : Entries → Option Entries
  | [] => (f none).map fun node => [(key, node)]
  | (k, node) :: more =>
    if k = key then (f (some node)).map fun node => (k, node) :: more
    else (alter? key f more).map ((k, node) :: ·)

/-- Changes the entries of the table that keys lead to. Tables that are missing on the way are
implied; in a series of tables the way leads through the latest. -/
def within? (f : Entries → Option Entries) : List String → Entries → Option Entries
  | [], entries => f entries
  | key :: keys, entries =>
    let enter? : Option Node → Option Node
      | none => (within? f keys []).map (.table .implied)
      | some (.table .closed _) => none
      | some (.table origin inner) => (within? f keys inner).map (.table origin)
      | some (.tables (latest :: earlier)) =>
        (within? f keys latest).map fun latest => .tables (latest :: earlier)
      | some _ => none
    alter? key enter? entries

/-- Puts in a node under a key that has none. -/
def add? (key : String) (node : Node) : Entries → Option Entries :=
  alter? key fun
    | none => some node
    | some _ => none

/-- Puts in a node under dotted keys. Dotted keys may add to tables that dotted keys have made, and
pass through implied ones, but never change a table that has a header of its own. -/
def assign? (node : Node) : List String → Entries → Option Entries
  | [], _ => none
  | [key], entries => add? key node entries
  | key :: next :: keys, entries =>
    let enter? : Option Node → Option Node
      | none => (assign? node (next :: keys) []).map (.table .dotted)
      | some (.table .dotted inner) => (assign? node (next :: keys) inner).map (.table .dotted)
      | some (.table .implied inner) =>
        if keys.isEmpty then none
        else (assign? node (next :: keys) inner).map (.table .implied)
      | some (.tables (latest :: earlier)) =>
        if keys.isEmpty then none
        else (assign? node (next :: keys) latest).map fun latest => .tables (latest :: earlier)
      | some _ => none
    alter? key enter? entries

/-- Begins the table with a header. A table that was only implied so far may be given its header. -/
def openTable? (keys : List String) (entries : Entries) : Option Entries :=
  match keys.getLast? with
  | none => none
  | some key =>
    let define? : Option Node → Option Node
      | none => some (.table .defined [])
      | some (.table .implied inner) => some (.table .defined inner)
      | some _ => none
    within? (alter? key define?) keys.dropLast entries

/-- Begins a further table in a series. -/
def openSeries? (keys : List String) (entries : Entries) : Option Entries :=
  match keys.getLast? with
  | none => none
  | some key =>
    let extend? : Option Node → Option Node
      | none => some (.tables [[]])
      | some (.tables items) => some (.tables ([] :: items))
      | some _ => none
    within? (alter? key extend?) keys.dropLast entries

/-- The node with a key. -/
def get? (key : String) (entries : Entries) : Option Node := entries.lookup key

end Entries

end CronHeatMap.Toml
