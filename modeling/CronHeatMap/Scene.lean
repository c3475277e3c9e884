import CronHeatMap.Color.Scale
import CronHeatMap.Grid

/-!
# The scene

What is drawn at a time: one element for each key, in document order. An element is told apart by
its number, which no later element of the scene gets again.
-/

namespace CronHeatMap

/-- The number of an element. -/
abbrev ElementId := Nat

/-- The marks that an element can carry. -/
structure Marks where
  /-- The expression that is picked out fires here. -/
  highlighted : Bool := false
  /-- The detail panel is held on this element. -/
  locked : Bool := false
deriving Repr, DecidableEq, Inhabited

/-- A cell that is drawn. -/
structure Element where
  id : Nat
  /-- What the cell shows. -/
  firing : Firing
  /-- Where the cell stands: the place of the firing with which it entered. -/
  seat : Seat
  fill : Rgb
  marks : Marks := {}
deriving Repr, DecidableEq, Inhabited

namespace Element

/-- The key of what an element shows. -/
def key (e : Element) : String := e.firing.key

/-- The element that enters for a firing. -/
def enter (scale : Scale) (id : ElementId) (f : Firing) : Element :=
  { id, firing := f, seat := f.seat, fill := scale.color f.count }

/-- The element when it shows another firing. -/
def display (scale : Scale) (e : Element) (f : Firing) : Element :=
  { e with firing := f, fill := scale.color f.count }

end Element

/-- The elements that are drawn, in document order. -/
structure Scene where
  elements : List Element := []
  /-- The number of the next element to enter. -/
  nextId : Nat := 0
  keys_nodup : (elements.map Element.key).Nodup := by simp
  ids_nodup : (elements.map Element.id).Nodup := by simp
  id_lt_nextId : ∀ e ∈ elements, e.id < nextId := by simp
deriving Repr, DecidableEq

namespace Scene

/-- The scene without elements. -/
def empty : Scene := {}

instance : Inhabited Scene := ⟨empty⟩

/-! ### Finding elements -/

/-- The element with a key. -/
def byKey? (s : Scene) (key : String) : Option Element := s.elements.find? (·.key = key)

/-- The element with a number. -/
def byId? (s : Scene) (id : ElementId) : Option Element := s.elements.find? (·.id = id)

/-- The first element that shows a firing of a certain time. -/
def at? (s : Scene) (seat : Seat) : Option Element := s.elements.find? (·.firing.seat = seat)

/-- The number belongs to an element of the scene. -/
def Contains (s : Scene) (id : ElementId) : Prop := ∃ e ∈ s.elements, e.id = id

instance (s : Scene) (id : ElementId) : Decidable (s.Contains id) :=
  inferInstanceAs (Decidable (∃ e ∈ s.elements, e.id = id))

/-- The numbers of the elements that satisfy `p`, in document order. -/
def idsWhere (s : Scene) (p : Element → Bool) : List ElementId :=
  (s.elements.filter p).map Element.id

/-! ### Marking elements -/

/-- Gives each element the marks that `f` chooses for it. -/
def mark (s : Scene) (f : Element → Marks) : Scene :=
  { s with
    elements := s.elements.map fun e => { e with marks := f e }
    keys_nodup := by rw [List.map_map]; exact s.keys_nodup
    ids_nodup := by rw [List.map_map]; exact s.ids_nodup
    id_lt_nextId := by simpa using s.id_lt_nextId }

/-- Sets whether the element with a number is locked. -/
def setLocked (s : Scene) (id : ElementId) (on : Bool) : Scene :=
  s.mark fun e => if e.id = id then { e.marks with locked := on } else e.marks

/-- Sets whether the elements with certain numbers are highlighted. -/
def setHighlighted (s : Scene) (ids : List ElementId) (on : Bool) : Scene :=
  s.mark fun e => if e.id ∈ ids then { e.marks with highlighted := on } else e.marks

/-- Takes the highlight off all elements. -/
def clearHighlights (s : Scene) : Scene := s.mark fun e => { e.marks with highlighted := false }

end Scene

end CronHeatMap
