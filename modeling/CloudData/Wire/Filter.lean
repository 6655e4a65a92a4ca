/-
Filters as messages: a holder with a field for a composite filter and one for a
filter on a property. Nothing in the message says that exactly one is set.
-/
import CloudData.Wire.Code
import CloudData.Wire.Entity

namespace CloudData.Wire

open Json

/-- A reference to a property by name. -/
structure PropertyReference where
  name : String := ""
deriving DecidableEq, Inhabited, Repr

/-- The message as JSON. -/
def PropertyReference.toJson (r : PropertyReference) : Json := .obj [("name", .str r.name)]

/-- The message that a JSON value holds. -/
def PropertyReference.ofJson (j : Json) : Read PropertyReference :=
  j.readRecord ["name"] {} fun name x _ r =>
    match name with
    | "name" => do return { r with name := ← x.readString }
    | _ => .ok r

/-- How a composite filter joins its parts. -/
inductive CompositeOperator
  | unspecified
  | and
  | or
deriving DecidableEq, Inhabited, Repr

instance : NameSet CompositeOperator where
  codes := [.unspecified, .and, .or]
  default := .unspecified
  name
    | .unspecified => "OPERATOR_UNSPECIFIED"
    | .and => "AND"
    | .or => "OR"
  mem_codes k := by cases k <;> decide
  name_injective k l := by cases k <;> cases l <;> decide

/-- How a property is compared with a value. -/
inductive PropertyOperator
  | unspecified
  | lessThan
  | lessThanOrEqual
  | greaterThan
  | greaterThanOrEqual
  | equal
  | isIn
  | notEqual
  | hasAncestor
  | notIn
deriving DecidableEq, Inhabited, Repr

instance : NameSet PropertyOperator where
  codes := [.unspecified, .lessThan, .lessThanOrEqual, .greaterThan, .greaterThanOrEqual, .equal,
    .isIn, .notEqual, .hasAncestor, .notIn]
  default := .unspecified
  name
    | .unspecified => "OPERATOR_UNSPECIFIED"
    | .lessThan => "LESS_THAN"
    | .lessThanOrEqual => "LESS_THAN_OR_EQUAL"
    | .greaterThan => "GREATER_THAN"
    | .greaterThanOrEqual => "GREATER_THAN_OR_EQUAL"
    | .equal => "EQUAL"
    | .isIn => "IN"
    | .notEqual => "NOT_EQUAL"
    | .hasAncestor => "HAS_ANCESTOR"
    | .notIn => "NOT_IN"
  mem_codes k := by cases k <;> decide
  name_injective k l := by cases k <;> cases l <;> decide

/-- A comparison of a property with a value. -/
structure PropertyFilter where
  property : PropertyReference := {}
  op : PropertyOperator := .unspecified
  value : Option Value := none
deriving Inhabited

namespace PropertyFilter

/-- The message as JSON. -/
def toJson (f : PropertyFilter) : Json :=
  .obj (("property", f.property.toJson) :: ("op", NameSet.toJson f.op) ::
    optional "value" Value.toJson f.value)

/-- The message that a JSON value holds. -/
def ofJson (j : Json) : Read PropertyFilter :=
  j.readRecord ["property", "op", "value"] {} fun name x _ f =>
    match name with
    | "property" => do return { f with property := ← PropertyReference.ofJson x }
    | "op" => do return { f with op := ← NameSet.ofJson x }
    | "value" => do return { f with value := ← x.readOption fun y _ => Value.ofJson y }
    | _ => .ok f

end PropertyFilter

mutual

/-- A filter of either kind. -/
structure Filter where
  compositeFilter : Option CompositeFilter := none
  propertyFilter : Option PropertyFilter := none

/-- Filters joined by an operator. -/
structure CompositeFilter where
  op : CompositeOperator := .unspecified
  filters : List Filter := []

end

instance : Inhabited Filter := ⟨{}⟩
instance : Inhabited CompositeFilter := ⟨{}⟩

mutual

/-- The message as JSON. -/
def Filter.toJson : Filter → Json
  | ⟨c, p⟩ =>
    .obj ((match c with
        | some c => [("compositeFilter", c.toJson)]
        | none => []) ++
      optional "propertyFilter" PropertyFilter.toJson p)

/-- The message as JSON. -/
def CompositeFilter.toJson : CompositeFilter → Json
  | ⟨op, fs⟩ => .obj [("op", NameSet.toJson op), ("filters", .arr (Filter.allToJson fs))]

/-- The messages of a list. -/
def Filter.allToJson : List Filter → List Json
  | [] => []
  | f :: fs => f.toJson :: Filter.allToJson fs

end

mutual

/-- The message that a JSON value holds. -/
def Filter.ofJson (j : Json) : Read Filter :=
  j.readRecord ["compositeFilter", "propertyFilter"] {} fun name x _ f =>
    match name with
    | "compositeFilter" => do
      return { f with compositeFilter := ← x.readOption fun y _ => CompositeFilter.ofJson y }
    | "propertyFilter" => do
      return { f with propertyFilter := ← x.readOption fun y _ => PropertyFilter.ofJson y }
    | _ => .ok f
termination_by sizeOf j
decreasing_by all_goals omega

/-- The message that a JSON value holds. -/
def CompositeFilter.ofJson (j : Json) : Read CompositeFilter :=
  j.readRecord ["op", "filters"] {} fun name x _ c =>
    match name with
    | "op" => do return { c with op := ← NameSet.ofJson x }
    | "filters" => do return { c with filters := ← x.readList fun y _ => Filter.ofJson y }
    | _ => .ok c
termination_by sizeOf j
decreasing_by all_goals omega

end

instance : Message PropertyReference := ⟨{}, PropertyReference.toJson, PropertyReference.ofJson⟩
instance : Message PropertyFilter := ⟨{}, PropertyFilter.toJson, PropertyFilter.ofJson⟩
instance : Message Filter := ⟨{}, Filter.toJson, Filter.ofJson⟩
instance : Message CompositeFilter := ⟨{}, CompositeFilter.toJson, CompositeFilter.ofJson⟩

end CloudData.Wire
