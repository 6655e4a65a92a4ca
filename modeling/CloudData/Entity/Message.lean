/-
Values and entities to and from their messages. A value takes the first field of
content that is set; settings travel apart from values and are joined to them
again by name and by position.
-/
import CloudData.Entity.Basic
import CloudData.Key.Message

namespace CloudData

mutual

/-- The value of a message: the first of its fields of content that is set. -/
def Value.ofWire : Wire.Value → Value
  | ⟨some b, _, _, _, _, _, _, _, _, _⟩ => .boolean b
  | ⟨none, some n, _, _, _, _, _, _, _, _⟩ => .integer n
  | ⟨none, none, some d, _, _, _, _, _, _, _⟩ => .double d
  | ⟨none, none, none, some k, _, _, _, _, _, _⟩ => .key (Key.ofWire k)
  | ⟨none, none, none, none, some s, _, _, _, _, _⟩ => .string s
  | ⟨none, none, none, none, none, some bs, _, _, _, _⟩ => .blob bs
  | ⟨none, none, none, none, none, none, some e, _, _, _⟩ => .entity (Entity.ofWire e)
  | ⟨none, none, none, none, none, none, none, some vs, _, _⟩ => .array (Value.allOfWire vs)
  | ⟨none, none, none, none, none, none, none, none, _, _⟩ => .null

/-- The entity of a message. -/
def Entity.ofWire : Wire.Entity → Entity
  | ⟨k, ⟨ps⟩⟩ => ⟨k.map Key.ofWire, Value.propertiesOfWire ps, Settings.ofProperties ps⟩

/-- The values of a list. -/
def Value.allOfWire : List Wire.Value → List Value
  | [] => []
  | v :: vs => Value.ofWire v :: Value.allOfWire vs

/-- The values of named messages. -/
def Value.propertiesOfWire : List (String × Wire.Value) → NameMap Value
  | [] => {}
  | (n, v) :: rest => (Value.propertiesOfWire rest).insert n (Value.ofWire v)

end

mutual

/-- The message of a value, without settings. -/
def Value.toWire : Value → Wire.Value
  | .null => {}
  | .boolean b => { booleanValue := some b }
  | .integer n => { integerValue := some n }
  | .double d => { doubleValue := some d }
  | .string s => { stringValue := some s }
  | .blob bs => { blobValue := some bs }
  | .key k => { keyValue := some k.toWire }
  | .entity e => { entityValue := some (Entity.toWire e) }
  | .array vs => { arrayValue := some (Value.allToWire vs) }

/-- The message of an entity: each property has its value and the settings of its name. -/
def Entity.toWire : Entity → Wire.Entity
  | ⟨k, ⟨ps⟩, ss⟩ => ⟨k.map Key.toWire, ⟨Value.propertiesToWire ss ps⟩⟩

/-- The messages of a list. -/
def Value.allToWire : List Value → List Wire.Value
  | [] => []
  | v :: vs => Value.toWire v :: Value.allToWire vs

/-- The messages of named values with the settings of their names. -/
def Value.propertiesToWire (ss : NameMap Settings) :
    List (String × Value) → List (String × Wire.Value)
  | [] => []
  | (n, v) :: rest => (n, Settings.applyNamed ss n (Value.toWire v)) :: Value.propertiesToWire ss rest

end

/-- The projected entity of a message. -/
def ProjectionEntity.ofWire (w : Wire.Entity) : ProjectionEntity := ⟨Entity.ofWire w⟩

/-- The message of a projected entity. -/
def ProjectionEntity.toWire (p : ProjectionEntity) : Wire.Entity := p.content.toWire

end CloudData
