/-
Queries of both sorts, and the requests that carry them. A request has one query;
putting another into it takes out the first, and leaves everything else as it
is but the namespace, which a query sets only if it has one.
-/
import CloudData.Query.Gql
import CloudData.Query.Structured
import CloudData.Result.Batch

namespace CloudData

/-- A query that gives results of kind `k`. -/
inductive Query (k : ResultKind)
  | gql (q : GqlQuery k)
  | structured (q : StructuredQuery k)

namespace Query

variable {k : ResultKind}

/-- The kind of results. -/
def resultKind (_ : Query k) : ResultKind := k

/-- The namespace, if the query sets one. -/
def namespaceId : Query k → Option String
  | .gql q => q.namespaceId
  | .structured q => q.settings.namespaceId

/-- The partition of a request for a query with that namespace. -/
def placed (space : Option String) (p : Option Wire.PartitionId) : Option Wire.PartitionId :=
  match space with
  | some s => some { p.getD {} with namespaceId := some s }
  | none => p

/-- Puts the query into a request. -/
def populate (q : Query k) (r : Wire.RunQueryRequest) : Wire.RunQueryRequest :=
  let r := { r with partitionId := placed q.namespaceId r.partitionId }
  match q with
  | .gql g => { r with gqlQuery := some g.toWire, query := none }
  | .structured s => { r with query := some s.settings.toWire, gqlQuery := none }

/-- The results of a batch for this query. -/
def decodeBatch (_ : Query k) (b : Wire.QueryResultBatch) : Except Failure (List k.Result) :=
  k.decodeBatch k b

/-- What is said while a batch for this query is decoded. -/
def batchEvents (_ : Query k) (b : Wire.QueryResultBatch) : List Event := k.batchEvents b

end Query

end CloudData
