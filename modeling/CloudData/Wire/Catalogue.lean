/-
All the messages, by name.
-/
import CloudData.Json.Text
import CloudData.Wire.Access
import CloudData.Wire.Batch
import CloudData.Wire.Query

namespace CloudData.Wire

/-- A type of messages with its name. -/
structure MessageType where
  name : String
  carrier : Type
  message : Message carrier

namespace MessageType

/-- The types of messages for entities and queries, and those for access control. -/
def all : List MessageType :=
  [⟨"PartitionId", PartitionId, inferInstance⟩,
    ⟨"Key", Key, inferInstance⟩,
    ⟨"PathElement", PathElement, inferInstance⟩,
    ⟨"ArrayValue", List Value, inferInstance⟩,
    ⟨"Value", Value, inferInstance⟩,
    ⟨"Entity", Entity, inferInstance⟩,
    ⟨"EntityResult", EntityResult, inferInstance⟩,
    ⟨"ResultType", OpenCode ResultCode, inferInstance⟩,
    ⟨"QueryResultBatch", QueryResultBatch, inferInstance⟩,
    ⟨"MoreResultsType", OpenCode MoreCode, inferInstance⟩,
    ⟨"PropertyReference", PropertyReference, inferInstance⟩,
    ⟨"KindExpression", KindExpression, inferInstance⟩,
    ⟨"Projection", Projection, inferInstance⟩,
    ⟨"PropertyOrder", PropertyOrder, inferInstance⟩,
    ⟨"Direction", Direction, inferInstance⟩,
    ⟨"Filter", Filter, inferInstance⟩,
    ⟨"CompositeFilter", CompositeFilter, inferInstance⟩,
    ⟨"CompositeOperator", CompositeOperator, inferInstance⟩,
    ⟨"PropertyFilter", PropertyFilter, inferInstance⟩,
    ⟨"PropertyOperator", PropertyOperator, inferInstance⟩,
    ⟨"Query", Query, inferInstance⟩,
    ⟨"GqlQueryParameter", GqlQueryParameter, inferInstance⟩,
    ⟨"GqlQuery", GqlQuery, inferInstance⟩,
    ⟨"RunQueryRequest", RunQueryRequest, inferInstance⟩,
    ⟨"ProjectTeam", ProjectTeam, inferInstance⟩,
    ⟨"BucketAccessControl", BucketAccessControl, inferInstance⟩,
    ⟨"ObjectAccessControl", ObjectAccessControl, inferInstance⟩]

/-- The type of messages of that name. -/
def find? (name : String) : Option MessageType := all.find? (·.name == name)

/-- Reads a message of the type and writes it again; also says whether it is the empty one, which
is seen from the JSON that is written. -/
def normalize (t : MessageType) (j : Json) : Json.Read (Json × Bool) := do
  let m ← t.message.ofJson j
  let written := t.message.toJson m
  return (written, written.toText == (t.message.toJson t.message.empty).toText)

end MessageType

end CloudData.Wire
