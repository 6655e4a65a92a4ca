/-
Keys as messages: a partition, and a path of elements from the root. A field
that may be absent is left out when it is; the others are always written.
-/
import CloudData.Wire.Message

namespace CloudData.Wire

open Json

/-- A grouping of entities: a project, and in it a database and a namespace. -/
structure PartitionId where
  projectId : String := ""
  databaseId : Option String := none
  namespaceId : Option String := none
deriving DecidableEq, Inhabited, Repr

/-- A step of a path. At most one of the id and the name is meant to be set. -/
structure PathElement where
  kind : String := ""
  id : Option Int64 := none
  name : Option String := none
deriving DecidableEq, Inhabited

/-- The identifier of an entity. -/
structure Key where
  partitionId : Option PartitionId := none
  path : List PathElement := []
deriving DecidableEq, Inhabited

namespace PartitionId

/-- The message as JSON. -/
def toJson (p : PartitionId) : Json :=
  .obj (("projectId", .str p.projectId) :: optional "databaseId" .str p.databaseId ++
    optional "namespaceId" .str p.namespaceId)

/-- The message that a JSON value holds. -/
def ofJson (j : Json) : Read PartitionId :=
  j.readRecord ["projectId", "databaseId", "namespaceId"] {} fun name x _ p =>
    match name with
    | "projectId" => do return { p with projectId := ← x.readString }
    | "databaseId" => do return { p with databaseId := ← x.readOption fun y _ => y.readString }
    | "namespaceId" => do return { p with namespaceId := ← x.readOption fun y _ => y.readString }
    | _ => .ok p

end PartitionId

namespace PathElement

/-- The element with that id and no name. -/
def withId (e : PathElement) (id : Int64) : PathElement := { e with id := some id, name := none }

/-- The element with that name and no id. -/
def withName (e : PathElement) (name : String) : PathElement :=
  { e with id := none, name := some name }

/-- The message as JSON. -/
def toJson (e : PathElement) : Json :=
  .obj (("kind", .str e.kind) :: optional "id" ofInt64 e.id ++ optional "name" .str e.name)

/-- The message that a JSON value holds. -/
def ofJson (j : Json) : Read PathElement :=
  j.readRecord ["kind", "id", "name"] {} fun name x _ e =>
    match name with
    | "kind" => do return { e with kind := ← x.readString }
    | "id" => do return { e with id := ← x.readOption fun y _ => y.readInt64 }
    | "name" => do return { e with name := ← x.readOption fun y _ => y.readString }
    | _ => .ok e

end PathElement

namespace Key

/-- The message as JSON. -/
def toJson (k : Key) : Json :=
  .obj (optional "partitionId" PartitionId.toJson k.partitionId ++
    [("path", .arr (k.path.map PathElement.toJson))])

/-- The message that a JSON value holds. -/
def ofJson (j : Json) : Read Key :=
  j.readRecord ["partitionId", "path"] {} fun name x _ k =>
    match name with
    | "partitionId" => do
      return { k with partitionId := ← x.readOption fun y _ => PartitionId.ofJson y }
    | "path" => do return { k with path := ← x.readList fun y _ => PathElement.ofJson y }
    | _ => .ok k

end Key

instance : Message PartitionId := ⟨{}, PartitionId.toJson, PartitionId.ofJson⟩
instance : Message PathElement := ⟨{}, PathElement.toJson, PathElement.ofJson⟩
instance : Message Key := ⟨{}, Key.toJson, Key.ofJson⟩

end CloudData.Wire
