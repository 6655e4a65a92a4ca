/-
A batch of query results as a message, and the two open enumerations in it: what
the entities of a batch hold, and whether more batches follow.
-/
import CloudData.Wire.Code
import CloudData.Wire.Entity

namespace CloudData.Wire

open Json

/-- What the entities of a batch hold. -/
inductive ResultCode
  | unspecified
  | full
  | projection
  | keyOnly
deriving DecidableEq, Repr

instance : CodeSet ResultCode where
  enumeration := ".google.datastore.v1.EntityResult.ResultType"
  codes := [.unspecified, .full, .projection, .keyOnly]
  default := .unspecified
  number
    | .unspecified => 0
    | .full => 1
    | .projection => 2
    | .keyOnly => 3
  name
    | .unspecified => "RESULT_TYPE_UNSPECIFIED"
    | .full => "FULL"
    | .projection => "PROJECTION"
    | .keyOnly => "KEY_ONLY"
  label
    | .unspecified => "Unspecified"
    | .full => "Full"
    | .projection => "Projection"
    | .keyOnly => "KeyOnly"
  mem_codes k := by cases k <;> decide
  number_injective k l := by cases k <;> cases l <;> decide
  name_injective k l := by cases k <;> cases l <;> decide

/-- Whether there are more results than a query has given so far. -/
inductive MoreCode
  | unspecified
  | notFinished
  | afterLimit
  | afterCursor
  | noMore
deriving DecidableEq, Repr

instance : CodeSet MoreCode where
  enumeration := ".google.datastore.v1.QueryResultBatch.MoreResultsType"
  codes := [.unspecified, .notFinished, .afterLimit, .afterCursor, .noMore]
  default := .unspecified
  number
    | .unspecified => 0
    | .notFinished => 1
    | .afterLimit => 2
    | .noMore => 3
    | .afterCursor => 4
  name
    | .unspecified => "MORE_RESULTS_TYPE_UNSPECIFIED"
    | .notFinished => "NOT_FINISHED"
    | .afterLimit => "MORE_RESULTS_AFTER_LIMIT"
    | .afterCursor => "MORE_RESULTS_AFTER_CURSOR"
    | .noMore => "NO_MORE_RESULTS"
  label
    | .unspecified => "Unspecified"
    | .notFinished => "NotFinished"
    | .afterLimit => "MoreResultsAfterLimit"
    | .afterCursor => "MoreResultsAfterCursor"
    | .noMore => "NoMoreResults"
  mem_codes k := by cases k <;> decide
  number_injective k l := by cases k <;> cases l <;> decide
  name_injective k l := by cases k <;> cases l <;> decide

/-- A batch of results. -/
structure QueryResultBatch where
  skippedResults : Option Int32 := none
  skippedCursor : Option Bytes := none
  entityResultType : OpenCode ResultCode := default
  entityResults : List EntityResult := []
  endCursor : Option Bytes := none
  moreResults : OpenCode MoreCode := default
  snapshotVersion : Option Int64 := none
deriving Inhabited

namespace QueryResultBatch

/-- The message as JSON. -/
def toJson (b : QueryResultBatch) : Json :=
  .obj (optional "skippedResults" ofInt32 b.skippedResults ++
    optional "skippedCursor" ofBytes b.skippedCursor ++
    [("entityResultType", b.entityResultType.toJson),
      ("entityResults", .arr (b.entityResults.map EntityResult.toJson))] ++
    optional "endCursor" ofBytes b.endCursor ++
    [("moreResults", b.moreResults.toJson)] ++
    optional "snapshotVersion" ofInt64 b.snapshotVersion)

/-- The names of the fields, in the order of the array form. -/
def fields : List String :=
  ["skippedResults", "skippedCursor", "entityResultType", "entityResults", "endCursor",
    "moreResults", "snapshotVersion"]

/-- The message that a JSON value holds. -/
def ofJson (j : Json) : Read QueryResultBatch :=
  j.readRecord fields {} fun name x _ b =>
    match name with
    | "skippedResults" => do
      return { b with skippedResults := ← x.readOption fun y _ => y.readInt32 }
    | "skippedCursor" => do
      return { b with skippedCursor := ← x.readOption fun y _ => y.readBytes }
    | "entityResultType" => do return { b with entityResultType := ← OpenCode.ofJson x }
    | "entityResults" => do
      return { b with entityResults := ← x.readList fun y _ => EntityResult.ofJson y }
    | "endCursor" => do return { b with endCursor := ← x.readOption fun y _ => y.readBytes }
    | "moreResults" => do return { b with moreResults := ← OpenCode.ofJson x }
    | "snapshotVersion" => do
      return { b with snapshotVersion := ← x.readOption fun y _ => y.readInt64 }
    | _ => .ok b

end QueryResultBatch

instance : Message QueryResultBatch := ⟨{}, QueryResultBatch.toJson, QueryResultBatch.ofJson⟩

end CloudData.Wire
