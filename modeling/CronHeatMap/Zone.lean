/-!
# Time zones

A zone tells how far its clocks are ahead of universal time at each instant. It is kept as the
offset before the first change of its clocks and the list of the changes in order of time. Instants
are counted in seconds from the start of 1970.
-/

namespace CronHeatMap

/-- The clocks of a zone change to another offset from universal time. -/
structure Transition where
  /-- The instant of the change. -/
  instant : Int
  /-- The seconds by which clocks are ahead of universal time from then on. -/
  offset : Int
deriving Repr, DecidableEq

/-- A time zone. -/
structure Zone where
  name : String
  /-- The offset before the first transition. -/
  initial : Int := 0
  /-- The transitions in order of time. -/
  transitions : List Transition := []
deriving Repr, DecidableEq

namespace Zone

/-- Universal time. -/
def utc : Zone := { name := "UTC" }

instance : Inhabited Zone := ⟨utc⟩

/-- The seconds by which the clocks of a zone are ahead of universal time at an instant. -/
def offsetAt (z : Zone) (instant : Int) : Int :=
  ((z.transitions.takeWhile (·.instant ≤ instant)).getLast?.map Transition.offset).getD z.initial

/-- What the clocks of a zone read at an instant, in seconds from the start of 1970. -/
def clockAt (z : Zone) (instant : Int) : Int := instant + z.offsetAt instant

end Zone

end CronHeatMap
