/-
Property values and entities as messages. A value holds one of eight kinds of
content, each in a field of its own, beside two settings that concern indexes;
the message does not say that only one of the fields is set. Values and
entities contain each other, through arrays and through embedded entities.
-/
import CloudData.Wire.Key

namespace CloudData.Wire

open Json

mutual

/-- A property value. With no field of content set it stands for null. -/
structure Value where
  booleanValue : Option Bool := none
  integerValue : Option Int64 := none
  doubleValue : Option Binary64 := none
  keyValue : Option Key := none
  stringValue : Option String := none
  blobValue : Option Bytes := none
  entityValue : Option Entity := none
  arrayValue : Option (List Value) := none
  meaning : Option Int32 := none
  excludeFromIndexes : Option Bool := none

/-- An entity: a key, which embedded entities may lack, and named properties. -/
structure Entity where
  key : Option Key := none
  properties : NameMap Value := {}

end

instance : Inhabited Value := ⟨{}⟩
instance : Inhabited Entity := ⟨{}⟩

/-! ## Numerical equality

Two messages are alike when they differ at most in the sign of a zero and hold no NaN.
-/

mutual

/-- Equal, with doubles compared as numbers. -/
def Value.alike : Value → Value → Bool
  | ⟨b₁, i₁, d₁, k₁, s₁, x₁, e₁, a₁, m₁, o₁⟩, ⟨b₂, i₂, d₂, k₂, s₂, x₂, e₂, a₂, m₂, o₂⟩ =>
    b₁ == b₂ && i₁ == i₂ &&
    (match d₁, d₂ with
      | some c, some d => c.alike d
      | none, none => true
      | _, _ => false) &&
    k₁ == k₂ && s₁ == s₂ && x₁ == x₂ &&
    (match e₁, e₂ with
      | some e, some f => e.alike f
      | none, none => true
      | _, _ => false) &&
    (match a₁, a₂ with
      | some vs, some ws => Value.allAlike vs ws
      | none, none => true
      | _, _ => false) &&
    m₁ == m₂ && o₁ == o₂

/-- Equal, with doubles compared as numbers. -/
def Entity.alike : Entity → Entity → Bool
  | ⟨k₁, ⟨ps₁⟩⟩, ⟨k₂, ⟨ps₂⟩⟩ => k₁ == k₂ && Value.propertiesAlike ps₁ ps₂

/-- Lists of one length whose items are alike. -/
def Value.allAlike : List Value → List Value → Bool
  | [], [] => true
  | v :: vs, w :: ws => v.alike w && Value.allAlike vs ws
  | _, _ => false

/-- Entries with the same names whose values are alike. -/
def Value.propertiesAlike : List (String × Value) → List (String × Value) → Bool
  | [], [] => true
  | (n, v) :: vs, (m, w) :: ws => n == m && v.alike w && Value.propertiesAlike vs ws
  | _, _ => false

end

/-! ## JSON -/

mutual

/-- The message as JSON. -/
def Value.toJson : Value → Json
  | ⟨b, i, d, k, s, x, e, a, m, o⟩ =>
    .obj (optional "booleanValue" .bool b ++ optional "integerValue" ofInt64 i ++
      optional "doubleValue" ofDouble d ++ optional "keyValue" Key.toJson k ++
      optional "stringValue" .str s ++ optional "blobValue" ofBytes x ++
      (match e with
        | some e => [("entityValue", e.toJson)]
        | none => []) ++
      (match a with
        | some vs => [("arrayValue", .obj [("values", .arr (Value.allToJson vs))])]
        | none => []) ++
      optional "meaning" ofInt32 m ++ optional "excludeFromIndexes" .bool o)

/-- The message as JSON: the properties are left out when there are none. -/
def Entity.toJson : Entity → Json
  | ⟨k, ⟨ps⟩⟩ =>
    .obj (optional "key" Key.toJson k ++
      (match ps with
        | [] => []
        | p :: ps => [("properties", .obj (Value.propertiesToJson (p :: ps)))]))

/-- The messages of a list. -/
def Value.allToJson : List Value → List Json
  | [] => []
  | v :: vs => v.toJson :: Value.allToJson vs

/-- The messages of named values. -/
def Value.propertiesToJson : List (String × Value) → List (String × Json)
  | [] => []
  | (n, v) :: vs => (n, v.toJson) :: Value.propertiesToJson vs

end

/-- The names of a value's fields, in the order of its array form. -/
def Value.fields : List String :=
  ["booleanValue", "integerValue", "doubleValue", "keyValue", "stringValue", "blobValue",
    "entityValue", "arrayValue", "meaning", "excludeFromIndexes"]

/-- The names of an entity's fields, in the order of its array form. -/
def Entity.fields : List String := ["key", "properties"]

mutual

/-- The message that a JSON value holds. -/
def Value.ofJson (j : Json) : Read Value :=
  j.readRecord Value.fields {} fun name x _ v =>
    match name with
    | "booleanValue" => do return { v with booleanValue := ← x.readOption fun y _ => y.readBool }
    | "integerValue" => do return { v with integerValue := ← x.readOption fun y _ => y.readInt64 }
    | "doubleValue" => do return { v with doubleValue := ← x.readOption fun y _ => y.readDouble }
    | "keyValue" => do return { v with keyValue := ← x.readOption fun y _ => Key.ofJson y }
    | "stringValue" => do return { v with stringValue := ← x.readOption fun y _ => y.readString }
    | "blobValue" => do return { v with blobValue := ← x.readOption fun y _ => y.readBytes }
    | "entityValue" => do
      return { v with entityValue := ← x.readOption fun y _ => Entity.ofJson y }
    | "arrayValue" => do
      return { v with arrayValue := ← x.readOption fun y _ => Value.arrayOfJson y }
    | "meaning" => do return { v with meaning := ← x.readOption fun y _ => y.readInt32 }
    | "excludeFromIndexes" => do
      return { v with excludeFromIndexes := ← x.readOption fun y _ => y.readBool }
    | _ => .ok v
termination_by sizeOf j
decreasing_by all_goals omega

/-- The values that the message of an array holds. -/
def Value.arrayOfJson (j : Json) : Read (List Value) :=
  j.readRecord ["values"] [] fun name x _ vs =>
    match name with
    | "values" => x.readList fun y _ => Value.ofJson y
    | _ => .ok vs
termination_by sizeOf j
decreasing_by all_goals omega

/-- The message that a JSON value holds. -/
def Entity.ofJson (j : Json) : Read Entity :=
  j.readRecord Entity.fields {} fun name x _ e =>
    match name with
    | "key" => do return { e with key := ← x.readOption fun y _ => Key.ofJson y }
    | "properties" => do return { e with properties := ← x.readMap fun y _ => Value.ofJson y }
    | _ => .ok e
termination_by sizeOf j
decreasing_by all_goals omega

end

/-- An array as a message of its own. -/
def Value.arrayToJson (vs : List Value) : Json := .obj [("values", .arr (Value.allToJson vs))]

/-- The result of a query for one entity: the entity, its version, and where the query goes on. -/
structure EntityResult where
  entity : Option Entity := none
  version : Option Int64 := none
  cursor : Option Bytes := none
deriving Inhabited

namespace EntityResult

/-- The message as JSON. -/
def toJson (r : EntityResult) : Json :=
  .obj (optional "entity" Entity.toJson r.entity ++ optional "version" ofInt64 r.version ++
    optional "cursor" ofBytes r.cursor)

/-- The message that a JSON value holds. -/
def ofJson (j : Json) : Read EntityResult :=
  j.readRecord ["entity", "version", "cursor"] {} fun name x _ r =>
    match name with
    | "entity" => do return { r with entity := ← x.readOption fun y _ => Entity.ofJson y }
    | "version" => do return { r with version := ← x.readOption fun y _ => y.readInt64 }
    | "cursor" => do return { r with cursor := ← x.readOption fun y _ => y.readBytes }
    | _ => .ok r

end EntityResult

instance : Message Value := ⟨{}, Value.toJson, Value.ofJson⟩
instance : Message (List Value) := ⟨[], Value.arrayToJson, Value.arrayOfJson⟩
instance : Message Entity := ⟨{}, Entity.toJson, Entity.ofJson⟩
instance : Message EntityResult := ⟨{}, EntityResult.toJson, EntityResult.ofJson⟩

end CloudData.Wire
