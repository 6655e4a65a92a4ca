/-
A batch that is cut into two is decoded as the two parts are, one after the other.

`ResultKind.decodeEntities_append`: the results of the first entities, and then
those of the others, unless one of them fails.
-/
import CloudData.Result.Batch

namespace CloudData.ResultKind

/-- Entities after others are decoded if the others are. -/
theorem decodeEntities_append (target actual : ResultKind) (ws us : List Wire.Entity) :
    decodeEntities target actual (ws ++ us) =
      match decodeEntities target actual ws, decodeEntities target actual us with
      | .ok xs, .ok ys => .ok (xs ++ ys)
      | .ok _, .error f => .error f
      | .error f, _ => .error f := by
  induction ws with
  | nil =>
    rw [List.nil_append, decodeEntities]
    cases decodeEntities target actual us <;> rfl
  | cons w ws ih =>
    rw [List.cons_append, decodeEntities, decodeEntities, ih]
    cases actual.convert w with
    | none => rfl
    | some r =>
      simp only
      cases target.narrow r with
      | none => rfl
      | some x =>
        simp only
        cases decodeEntities target actual ws with
        | error f => rfl
        | ok xs => cases decodeEntities target actual us <;> rfl

theorem declared_eq {b c : Wire.QueryResultBatch} (h : b.entityResultType = c.entityResultType) :
    b.declared = c.declared := by
  rw [Wire.QueryResultBatch.declared, Wire.QueryResultBatch.declared, h]

/-- **Batches can be split anywhere.** Whatever is wanted and whatever is accepted, a batch with the
results of two others that declare the same gives what the two give, the first before the second; it
fails as the first does, and if only the second fails, as that one. Nothing else in the three batches
matters. -/
theorem decodeBatch_split (target expected : ResultKind) {b b₁ b₂ : Wire.QueryResultBatch}
    (h₁ : b₁.entityResultType = b.entityResultType) (h₂ : b₂.entityResultType = b.entityResultType)
    (h : b.entityResults = b₁.entityResults ++ b₂.entityResults) :
    decodeBatch target expected b =
      match decodeBatch target expected b₁, decodeBatch target expected b₂ with
      | .ok xs, .ok ys => .ok (xs ++ ys)
      | .ok _, .error f => .error f
      | .error f, _ => .error f := by
  have he : b.entities = b₁.entities ++ b₂.entities := by
    simp only [Wire.QueryResultBatch.entities, h, List.map_append]
  unfold decodeBatch
  rw [declared_eq h₁, declared_eq h₂]
  by_cases ha : expected.accepts b.declared = true
  · rw [if_pos ha, if_pos ha, if_pos ha, he, decodeEntities_append]
  · rw [if_neg ha, if_neg ha, if_neg ha]

/-- Keys are wanted and nothing is declared: the first part gives a key, but the second begins with a
projected entity and fails, and so does the whole. -/
theorem decodeBatch_split_midway :
    let k : Wire.EntityResult := { entity := some { key := some { path := [{ kind := "Task" }] } } }
    let p : Wire.EntityResult :=
      { entity := some { properties := ⟨[("done", { booleanValue := some true })]⟩ } }
    let b₁ : Wire.QueryResultBatch := { entityResults := [k], skippedResults := some 1 }
    let b₂ : Wire.QueryResultBatch := { entityResults := [p, k] }
    let b : Wire.QueryResultBatch := { entityResults := [k, p, k], moreResults := .known .noMore }
    b₁.entityResultType = b.entityResultType ∧ b₂.entityResultType = b.entityResultType ∧
    b.entityResults = b₁.entityResults ++ b₂.entityResults ∧
    decodeBatch .key .unknown b = .error (.mismatch .key .projection) := by
  intro k p b₁ b₂ b
  have hb₁ : b₁.entityResultType = b.entityResultType := rfl
  have hb₂ : b₂.entityResultType = b.entityResultType := rfl
  have hb : b.entityResults = b₁.entityResults ++ b₂.entityResults := rfl
  refine ⟨hb₁, hb₂, hb, ?_⟩
  have h₁ : decodeBatch .key .unknown b₁ = .ok [{ path := [{ kind := "Task" }] }] := rfl
  have h₂ : decodeBatch .key .unknown b₂ = .error (.mismatch .key .projection) := rfl
  rw [decodeBatch_split .key .unknown hb₁ hb₂ hb, h₁, h₂]

end CloudData.ResultKind
