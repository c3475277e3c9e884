import CronHeatMap.Scene

/-!
# Where expressions fire

An index from expressions to the elements in which they fire, built in one pass over a scene.
-/

namespace CronHeatMap

/-- The elements in which an expression fires, latest first. -/
structure IndexEntry where
  expression : String
  latestFirst : List ElementId
deriving Repr, DecidableEq

/-- The elements of each expression. -/
structure ExpressionIndex where
  entries : List IndexEntry := []
deriving Repr, DecidableEq, Inhabited

namespace ExpressionIndex

/-- Adds an element to an entry, unless it was the last one added. -/
def IndexEntry.add (entry : IndexEntry) (id : ElementId) : IndexEntry :=
  if entry.latestFirst.head? = some id then entry
  else { entry with latestFirst := id :: entry.latestFirst }

/-- Adds an element to the entry of an expression. -/
def addTo (expression : String) (id : ElementId) : List IndexEntry → List IndexEntry
  | [] => [{ expression, latestFirst := [id] }]
  | entry :: entries =>
    if entry.expression = expression then IndexEntry.add entry id :: entries
    else entry :: addTo expression id entries

/-- Adds an element under each expression that fires in it. An expression that is listed twice adds
the element once. -/
def addElement (entries : List IndexEntry) (e : Element) : List IndexEntry :=
  e.firing.expressions.foldl (fun entries x => addTo x e.id entries) entries

/-- The index of a scene. -/
def ofScene (s : Scene) : ExpressionIndex := { entries := s.elements.foldl addElement [] }

/-- The elements in which an expression fires, in document order. -/
def cellsFor (index : ExpressionIndex) (expression : String) : List ElementId :=
  ((index.entries.find? (·.expression = expression)).map (·.latestFirst.reverse)).getD []

/-- The number of expressions that fire somewhere. -/
def size (index : ExpressionIndex) : Nat := index.entries.length

end ExpressionIndex

end CronHeatMap
