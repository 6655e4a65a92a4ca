/-
Filters: comparisons of a property with a value, joined by "and" and "or". The
message of a filter has the field of its kind set and not the other.
-/
import CloudData.Entity.Message
import CloudData.Wire.Filter

namespace CloudData

/-- The name that stands for the key of an entity among its properties. -/
def keyProperty : String := "__key__"

/-- How a property is compared. -/
inductive PropertyOperator
  | lessThan
  | lessThanOrEqual
  | greaterThan
  | greaterThanOrEqual
  | equal
  | notEqual
  | isIn
  | notIn
  | hasAncestor
deriving DecidableEq, Repr

/-- The name of the operator. -/
def PropertyOperator.name : PropertyOperator → String
  | .lessThan => "LessThan"
  | .lessThanOrEqual => "LessThanOrEqual"
  | .greaterThan => "GreaterThan"
  | .greaterThanOrEqual => "GreaterThanOrEqual"
  | .equal => "Equal"
  | .notEqual => "NotEqual"
  | .isIn => "In"
  | .notIn => "NotIn"
  | .hasAncestor => "HasAncestor"

/-- The operator in messages. -/
def PropertyOperator.toWire : PropertyOperator → Wire.PropertyOperator
  | .lessThan => .lessThan
  | .lessThanOrEqual => .lessThanOrEqual
  | .greaterThan => .greaterThan
  | .greaterThanOrEqual => .greaterThanOrEqual
  | .equal => .equal
  | .notEqual => .notEqual
  | .isIn => .isIn
  | .notIn => .notIn
  | .hasAncestor => .hasAncestor

/-- How filters are joined. -/
inductive CompositeOperator
  | and
  | or
deriving DecidableEq, Repr

/-- The name of the operator. -/
def CompositeOperator.name : CompositeOperator → String
  | .and => "And"
  | .or => "Or"

/-- The operator in messages. -/
def CompositeOperator.toWire : CompositeOperator → Wire.CompositeOperator
  | .and => .and
  | .or => .or

/-- A condition on entities. -/
inductive Filter
  | property (name : String) (op : PropertyOperator) (value : Value)
  | composite (op : CompositeOperator) (filters : List Filter)

instance : Inhabited Filter := ⟨.composite .and []⟩

namespace Filter

/-- The property equals one of the values. -/
def isIn (name : String) (values : List Value) : Filter := .property name .isIn (.array values)

/-- The property equals none of the values. -/
def notIn (name : String) (values : List Value) : Filter := .property name .notIn (.array values)

/-- The entity is below the one with that key. -/
def hasAncestor (k : Key) : Filter := .property keyProperty .hasAncestor (.key k)

mutual

/-- Equal, with doubles compared as numbers. -/
def alike : Filter → Filter → Bool
  | .property n o v, .property m p w => n == m && o == p && v.alike w
  | .composite o fs, .composite p gs => o == p && allAlike fs gs
  | _, _ => false

/-- Lists of one length whose filters are alike. -/
def allAlike : List Filter → List Filter → Bool
  | [], [] => true
  | f :: fs, g :: gs => alike f g && allAlike fs gs
  | _, _ => false

end

mutual

/-- The message of a filter. -/
def toWire : Filter → Wire.Filter
  | .property n o v =>
    { propertyFilter := some { property := ⟨n⟩, op := o.toWire, value := some v.toWire } }
  | .composite o fs => { compositeFilter := some { op := o.toWire, filters := allToWire fs } }

/-- The messages of a list. -/
def allToWire : List Filter → List Wire.Filter
  | [] => []
  | f :: fs => toWire f :: allToWire fs

end

end Filter

end CloudData
