/-
Keys to and from their messages. The message of a key always has a partition,
in which an empty database or namespace is left out.
-/
import CloudData.Key.Basic
import CloudData.Wire.Key

namespace CloudData

/-- The element of a message; if both an id and a name are set, the id counts. -/
def PathElement.ofWire (e : Wire.PathElement) : PathElement :=
  { kind := e.kind
    identifier :=
      match e.id, e.name with
      | some n, _ => some (.id n)
      | none, some s => some (.name s)
      | none, none => none }

/-- The message of an element. -/
def PathElement.toWire (e : PathElement) : Wire.PathElement :=
  { kind := e.kind, id := e.id?, name := e.name? }

namespace Key

/-- The text, unless it is empty. -/
def unlessEmpty (s : String) : Option String := if s.isEmpty then none else some s

/-- The key of a message; what is absent is empty. -/
def ofWire (k : Wire.Key) : Key :=
  let p := k.partitionId.getD {}
  { projectId := p.projectId
    databaseId := p.databaseId.getD ""
    namespaceId := p.namespaceId.getD ""
    path := k.path.map PathElement.ofWire }

/-- The partition of a key's message. -/
def partition (k : Key) : Wire.PartitionId :=
  { projectId := k.projectId
    databaseId := unlessEmpty k.databaseId
    namespaceId := unlessEmpty k.namespaceId }

/-- The message of a key. -/
def toWire (k : Key) : Wire.Key :=
  { partitionId := some k.partition, path := k.path.map PathElement.toWire }

end Key

end CloudData
