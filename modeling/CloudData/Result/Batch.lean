/-
Decoding batches. The kind that a batch declares must be one that is accepted;
each result is then converted as that kind and narrowed to the kind that is
wanted, and the first that does not narrow fails the batch. Results that convert
to nothing are left out.
-/
import CloudData.Failure
import CloudData.Result.Value

namespace CloudData

/-- The failure that results of kind `actual` came where `expected` were wanted. -/
def Failure.mismatch (expected actual : ResultKind) : Failure :=
  ⟨.deserialization, .mismatch expected actual⟩

namespace Wire.QueryResultBatch

/-- The kind of results that the batch declares. -/
def declared (b : QueryResultBatch) : ResultKind := .ofCode (some b.entityResultType)

/-- The entities of the batch; a missing one counts as an empty one. -/
def entities (b : QueryResultBatch) : List Entity := b.entityResults.map fun r => r.entity.getD {}

end Wire.QueryResultBatch

namespace ResultKind

/-- The entities as results of kind `target`, converted as results of kind `actual`. -/
def decodeEntities (target actual : ResultKind) : List Wire.Entity → Except Failure (List target.Result)
  | [] => .ok []
  | w :: ws =>
    match actual.convert w with
    | none => decodeEntities target actual ws
    | some r =>
      match target.narrow r with
      | some x => (x :: ·) <$> decodeEntities target actual ws
      | none => .error (.mismatch target r.kind)

/-- The results of a batch, of kind `target`, where results of kind `expected` are wanted. -/
def decodeBatch (target expected : ResultKind) (b : Wire.QueryResultBatch) :
    Except Failure (List target.Result) :=
  if expected.accepts b.declared then decodeEntities target b.declared b.entities
  else .error (.mismatch expected b.declared)

/-- What is said while a batch is decoded. -/
def batchEvents (expected : ResultKind) (b : Wire.QueryResultBatch) : List Event :=
  lookupEvents (some b.entityResultType) ++
    if expected.accepts b.declared then []
    else
      [.say .warn ("query expects results of type " ++ expected.name ++
        ", but the batch contains " ++ b.declared.name ++ " results")]

end ResultKind

end CloudData
