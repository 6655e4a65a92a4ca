/-
The order of results: by a property, one way or the other.
-/
import CloudData.Wire.Query

namespace CloudData

/-- Which way results are sorted. -/
inductive Direction
  | ascending
  | descending
deriving DecidableEq, Repr

/-- The name of the direction. -/
def Direction.name : Direction → String
  | .ascending => "Ascending"
  | .descending => "Descending"

/-- The direction in messages. -/
def Direction.toWire : Direction → Wire.Direction
  | .ascending => .ascending
  | .descending => .descending

/-- A property that results are sorted by. -/
structure OrderBy where
  property : String
  direction : Direction
deriving DecidableEq, Repr

namespace OrderBy

/-- Smallest first. -/
def asc (property : String) : OrderBy := ⟨property, .ascending⟩

/-- Largest first. -/
def desc (property : String) : OrderBy := ⟨property, .descending⟩

/-- The message of a sort order. -/
def toWire (o : OrderBy) : Wire.PropertyOrder := ⟨⟨o.property⟩, o.direction.toWire⟩

end OrderBy

end CloudData
