/-
Property values and entities. Arrays hold values and entities may be embedded as
values. An entity keeps the values of its properties and, apart from them, index
settings by name; the two need not agree.
-/
import CloudData.Entity.Settings
import CloudData.Key.Basic

namespace CloudData

mutual

/-- A property value. -/
inductive Value
  | null
  | boolean (b : Bool)
  | integer (n : Int64)
  | double (d : Binary64)
  | string (s : String)
  | blob (bs : Bytes)
  | key (k : Key)
  | entity (e : Entity)
  | array (vs : List Value)

/-- A key, which embedded entities may lack, named properties, and index settings by name. -/
structure Entity where
  key : Option Key := none
  properties : NameMap Value := {}
  settings : NameMap Settings := {}

end

instance : Inhabited Value := ⟨.null⟩
instance : Inhabited Entity := ⟨{}⟩

/-! ## Numerical equality -/

mutual

/-- Equal, with doubles compared as numbers. -/
def Value.alike : Value → Value → Bool
  | .null, .null => true
  | .boolean b, .boolean c => b == c
  | .integer m, .integer n => m == n
  | .double c, .double d => c.alike d
  | .string s, .string t => s == t
  | .blob a, .blob b => a == b
  | .key k, .key l => k == l
  | .entity e, .entity f => e.alike f
  | .array vs, .array ws => Value.allAlike vs ws
  | _, _ => false

/-- Equal, with doubles compared as numbers. -/
def Entity.alike : Entity → Entity → Bool
  | ⟨k, ⟨ps⟩, ss⟩, ⟨l, ⟨qs⟩, ts⟩ => k == l && Value.propertiesAlike ps qs && ss == ts

/-- Lists of one length whose items are alike. -/
def Value.allAlike : List Value → List Value → Bool
  | [], [] => true
  | v :: vs, w :: ws => v.alike w && Value.allAlike vs ws
  | _, _ => false

/-- Entries with the same names whose values are alike. -/
def Value.propertiesAlike : List (String × Value) → List (String × Value) → Bool
  | [], [] => true
  | (n, v) :: vs, (m, w) :: ws => n == m && v.alike w && Value.propertiesAlike vs ws
  | _, _ => false

end

namespace Entity

/-- An entity with a key and nothing else. -/
def ofKey (k : Key) : Entity := { key := some k }

/-- The value of a property. -/
def get? (e : Entity) (name : String) : Option Value := e.properties.find? name

/-- Whether there is a property of that name. -/
def contains (e : Entity) (name : String) : Bool := e.properties.contains name

/-- The index settings under a name, whether or not it is a property. -/
def settings? (e : Entity) (name : String) : Option Settings := e.settings.find? name

/-- Whether the settings under a name exclude it from indexes. -/
def isExcluded (e : Entity) (name : String) : Bool := (e.settings? name).any Settings.isExcluded

/-- Neither a key nor properties. -/
def isEmpty (e : Entity) : Bool := e.key.isNone && e.properties.isEmpty

/-- An update of an entity. -/
inductive Update
  | key (k : Key)
  | property (name : String) (v : Value)
  | settings (name : String) (s : Settings)

/-- Makes an update. A new value leaves the settings of its name as they are, and empty settings
remove those that were there. -/
def apply (e : Entity) : Update → Entity
  | .key k => { e with key := some k }
  | .property n v => { e with properties := e.properties.insert n v }
  | .settings n s => { e with settings := Settings.put e.settings n s }

/-- Makes updates one after the other. -/
def applyAll (e : Entity) (updates : List Update) : Entity := updates.foldl apply e

end Entity

/-- The entity that a projection gives: some of the properties, and a key or none. -/
structure ProjectionEntity where
  content : Entity := {}
deriving Inhabited

/-- Equal, with doubles compared as numbers. -/
def ProjectionEntity.alike (p q : ProjectionEntity) : Bool := p.content.alike q.content

end CloudData
