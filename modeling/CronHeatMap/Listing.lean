import CronHeatMap.Scene.Index

/-!
# The listing

The expressions that were asked about. One of them can be picked out, which highlights all the cells
in which it fires.
-/

namespace CronHeatMap

/-- An expression of the listing. -/
structure ListingEntry where
  expression : String
  highlighted : Bool := false
deriving Repr, DecidableEq, Inhabited

/-- The expressions that were asked about, in order. -/
abbrev Listing := List ListingEntry

namespace Listing

/-- The listing of some expressions, none of them picked out. -/
def ofExpressions (expressions : List String) : Listing := expressions.map fun expression =>
  { expression }

/-- The listing with none of its expressions picked out. -/
def cleared (l : Listing) : Listing := l.map fun entry => { entry with highlighted := false }

/-- The place of the expression that is picked out. -/
def active? (l : Listing) : Option Nat := l.findIdx? (·.highlighted)

/-- The listing with one entry picked out besides those that are. -/
def pick (l : Listing) (i : Nat) : Listing :=
  l.modify i fun entry => { entry with highlighted := true }

end Listing

end CronHeatMap
