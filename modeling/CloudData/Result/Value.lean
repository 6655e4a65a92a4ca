/-
Results of queries. A kind of result says how the message of an entity becomes a
result; where the kind is unknown, an entity without properties is a key, and
one with neither properties nor a key is nothing.
-/
import CloudData.Entity.Message
import CloudData.Result.Kind

namespace CloudData

/-- A result. -/
inductive ResultValue
  | entity (e : Entity)
  | key (k : Key)
  | projection (p : ProjectionEntity)
deriving Inhabited

namespace ResultValue

/-- The kind of a result. -/
def kind : ResultValue → ResultKind
  | .entity _ => .entity
  | .key _ => .key
  | .projection _ => .projection

/-- Equal, with doubles compared as numbers. -/
def alike : ResultValue → ResultValue → Bool
  | .entity e, .entity f => e.alike f
  | .key k, .key l => k == l
  | .projection p, .projection q => p.alike q
  | _, _ => false

/-- The message of a result; a key is an entity without properties. -/
def toWire : ResultValue → Wire.Entity
  | .entity e => e.toWire
  | .key k => { key := some k.toWire }
  | .projection p => p.toWire

end ResultValue

namespace ResultKind

/-- The result of that kind in the message of an entity. -/
def convert : ResultKind → Wire.Entity → Option ResultValue
  | .unknown, w =>
    if w.properties.isEmpty then w.key.map fun k => .key (Key.ofWire k)
    else some (.projection (ProjectionEntity.ofWire w))
  | .entity, w => some (.entity (Entity.ofWire w))
  | .key, w => some (.key ((w.key.map Key.ofWire).getD {}))
  | .projection, w => some (.projection (ProjectionEntity.ofWire w))

/-- The type of the results of a kind. -/
def Result : ResultKind → Type
  | .unknown => ResultValue
  | .entity => Entity
  | .key => Key
  | .projection => ProjectionEntity

/-- A result as one of a kind, if it is of that kind. -/
def narrow : (k : ResultKind) → ResultValue → Option k.Result
  | .unknown, r => some r
  | .entity, .entity e => some e
  | .key, .key k => some k
  | .projection, .projection p => some p
  | .entity, _ | .key, _ | .projection, _ => none

/-- A result of a known kind as a result of any kind. -/
def widen : (k : ResultKind) → k.Result → ResultValue
  | .unknown, r => r
  | .entity, e => .entity e
  | .key, k => .key k
  | .projection, p => .projection p

end ResultKind

end CloudData
