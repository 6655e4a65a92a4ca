/-
Queries, the requests that carry them, and batches of results in JSON. What was
written can be read, and is the same message if what is in it is faithful: values,
filters, bindings under ascending names, and codes that are unknown only where no
known one fits. Whatever was read is faithful.
-/
import CloudData.Proofs.Wire.Filter
import CloudData.Wire.Batch

namespace CloudData.Wire

open Json

/-! ## Structured queries -/

/-- What there is of the filter is faithful. -/
def Query.Faithful (q : Query) : Prop := ∀ f ∈ q.filter, f.Faithful

namespace Query

theorem toJson_ne_null (q : Query) : q.toJson ≠ .null := nofun

theorem restored (q : Query) : Restored (ofJson q.toJson) q.Faithful q := by
  obtain ⟨f, hf, hf'⟩ := Restored.reread (o := q.filter) Filter.toJson_ne_null fun f _ => f.restored
  refine ⟨{ q with filter := f }, ?_, fun h => ?_⟩
  · exact readRecord_of_reads (.append (.append (.append (.append (.append (.append (.append (.append
      (Projection.lossless.unlessEmpty (fun _ => rfl) rfl)
      (KindExpression.lossless.unlessEmpty (fun _ => rfl) rfl))
      (.optional hf (fun _ => rfl) rfl))
      (PropertyOrder.lossless.unlessEmpty (fun _ => rfl) rfl))
      (PropertyReference.lossless.unlessEmpty (fun _ => rfl) rfl))
      (lossless_bytes.optional (fun _ => rfl) rfl))
      (lossless_bytes.optional (fun _ => rfl) rfl))
      (lossless_int32.optional (fun _ => rfl) rfl))
      (lossless_int32.optional (fun _ => rfl) rfl)) rfl
  · rw [hf' h]

theorem faithful_of_ofJson {j : Json} {q : Query} (h : ofJson j = .ok q) : q.Faithful := by
  refine readRecord_invariant (P := Faithful) (fun f h => by cases h) (fun n x hx a b ha hb => ?_) h
  split at hb
  case h_3 =>
    obtain ⟨f, hf, rfl⟩ := of_map_ok hb
    exact fun f h => Filter.faithful_of_ofJson x (of_readOption hf f h)
  case h_10 =>
    cases hb
    exact ha
  all_goals
    obtain ⟨y, -, rfl⟩ := of_map_ok hb
    exact ha

end Query

/-! ## Queries in text -/

/-- What there is of the value is faithful. -/
def GqlQueryParameter.Faithful (p : GqlQueryParameter) : Prop := ∀ v ∈ p.value, v.Faithful

namespace GqlQueryParameter

theorem restored (p : GqlQueryParameter) : Restored (ofJson p.toJson) p.Faithful p := by
  obtain ⟨v, hv, hv'⟩ := Restored.reread (o := p.value) Value.toJson_ne_null fun v _ => v.restored
  refine ⟨{ p with value := v }, ?_, fun h => ?_⟩
  · exact readRecord_of_reads (.append (.optional hv (fun _ => rfl) rfl)
      (lossless_bytes.optional (fun _ => rfl) rfl)) rfl
  · rw [hv' h]

theorem faithful_of_ofJson {j : Json} {p : GqlQueryParameter} (h : ofJson j = .ok p) :
    p.Faithful := by
  refine readRecord_invariant (P := Faithful) (fun v h => by cases h) (fun n x hx a b ha hb => ?_) h
  split at hb
  · obtain ⟨v, hv, rfl⟩ := of_map_ok hb
    exact fun v h => Value.faithful_of_ofJson x (of_readOption hv v h)
  · obtain ⟨c, -, rfl⟩ := of_map_ok hb
    exact ha
  · cases hb
    exact ha

end GqlQueryParameter

/-- The names of the named bindings ascend, and all bindings are faithful. -/
structure GqlQuery.Faithful (q : GqlQuery) : Prop where
  ascending : q.namedBindings.Ascending
  named : ∀ b ∈ q.namedBindings.entries, b.2.Faithful
  positional : ∀ p ∈ q.positionalBindings, p.Faithful

namespace GqlQuery

theorem toJson_ne_null (q : GqlQuery) : q.toJson ≠ .null := nofun

theorem restored (q : GqlQuery) : Restored (ofJson q.toJson) q.Faithful q := by
  obtain ⟨ns, hns, hns'⟩ := Restored.map (m := q.namedBindings) fun b _ => b.2.restored
  obtain ⟨ps, hps, hps'⟩ := Restored.list fun p (_ : p ∈ q.positionalBindings) => p.restored
  refine ⟨{ q with namedBindings := ns, positionalBindings := ps }, ?_, fun h => ?_⟩
  · exact readRecord_of_reads (.append (.append (.cons
      (lossless_string.member fun _ => rfl)
      (lossless_bool.optional (fun _ => rfl) rfl))
      (.unlessEmptyMap hns (fun _ => rfl) rfl))
      (.unlessEmpty hps (fun _ => rfl) rfl)) rfl
  · rw [hns' ⟨h.ascending, h.named⟩, hps' h.positional]

theorem faithful_of_ofJson {j : Json} {q : GqlQuery} (h : ofJson j = .ok q) : q.Faithful := by
  refine readRecord_invariant (P := Faithful)
    ⟨NameMap.ascending_empty, fun b h => (by cases h), fun p h => (by cases h)⟩
    (fun n x hx a b ha hb => ?_) h
  split at hb
  · obtain ⟨s, -, rfl⟩ := of_map_ok hb
    exact ⟨ha.ascending, ha.named, ha.positional⟩
  · obtain ⟨l, -, rfl⟩ := of_map_ok hb
    exact ⟨ha.ascending, ha.named, ha.positional⟩
  · obtain ⟨m, hm, rfl⟩ := of_map_ok hb
    refine ⟨(of_readMap hm).1, fun p hp => ?_, ha.positional⟩
    obtain ⟨y, hy, hp⟩ := (of_readMap hm).2 p hp
    exact GqlQueryParameter.faithful_of_ofJson hp
  · obtain ⟨ps, hps, rfl⟩ := of_map_ok hb
    refine ⟨ha.ascending, ha.named, fun p hp => ?_⟩
    obtain ⟨y, hy, hp⟩ := of_readList hps p hp
    exact GqlQueryParameter.faithful_of_ofJson hp
  · cases hb
    exact ha

end GqlQuery

/-! ## Requests -/

/-- What there is of either query is faithful. -/
structure RunQueryRequest.Faithful (r : RunQueryRequest) : Prop where
  query : ∀ q ∈ r.query, q.Faithful
  gqlQuery : ∀ q ∈ r.gqlQuery, q.Faithful

namespace RunQueryRequest

theorem restored (r : RunQueryRequest) : Restored (ofJson r.toJson) r.Faithful r := by
  obtain ⟨q, hq, hq'⟩ := Restored.reread (o := r.query) Query.toJson_ne_null fun q _ => q.restored
  obtain ⟨g, hg, hg'⟩ := Restored.reread (o := r.gqlQuery) GqlQuery.toJson_ne_null fun q _ =>
    q.restored
  refine ⟨{ r with query := q, gqlQuery := g }, ?_, fun h => ?_⟩
  · exact readRecord_of_reads (.append (.append (.append (.cons
      (lossless_string.member fun _ => rfl)
      (lossless_string.optional (fun _ => rfl) rfl))
      (PartitionId.lossless.optional (fun _ => rfl) rfl))
      (.optional hq (fun _ => rfl) rfl))
      (.optional hg (fun _ => rfl) rfl)) rfl
  · rw [hq' h.query, hg' h.gqlQuery]

theorem faithful_of_ofJson {j : Json} {r : RunQueryRequest} (h : ofJson j = .ok r) :
    r.Faithful := by
  refine readRecord_invariant (P := Faithful) ⟨fun q h => (by cases h), fun q h => (by cases h)⟩
    (fun n x hx a b ha hb => ?_) h
  split at hb
  case h_4 =>
    obtain ⟨q, hq, rfl⟩ := of_map_ok hb
    exact ⟨fun q h => Query.faithful_of_ofJson (of_readOption hq q h), ha.gqlQuery⟩
  case h_5 =>
    obtain ⟨q, hq, rfl⟩ := of_map_ok hb
    exact ⟨ha.query, fun q h => GqlQuery.faithful_of_ofJson (of_readOption hq q h)⟩
  case h_6 =>
    cases hb
    exact ha
  all_goals
    obtain ⟨y, -, rfl⟩ := of_map_ok hb
    exact ⟨ha.query, ha.gqlQuery⟩

end RunQueryRequest

/-! ## Batches of results -/

/-- The entities are faithful, and the two codes genuine. -/
structure QueryResultBatch.Faithful (b : QueryResultBatch) : Prop where
  entityResultType : b.entityResultType.Genuine
  entityResults : ∀ r ∈ b.entityResults, r.Faithful
  moreResults : b.moreResults.Genuine

namespace QueryResultBatch

theorem restored (b : QueryResultBatch) : Restored (ofJson b.toJson) b.Faithful b := by
  obtain ⟨t, ht, ht'⟩ := b.entityResultType.ofJson_toJson
  obtain ⟨rs, hrs, hrs'⟩ := Restored.list fun r (_ : r ∈ b.entityResults) => r.restored
  obtain ⟨m, hm, hm'⟩ := b.moreResults.ofJson_toJson
  refine ⟨{ b with entityResultType := t, entityResults := rs, moreResults := m }, ?_, fun h => ?_⟩
  · exact readRecord_of_reads (.append (.append (.append (.append (.append
      (lossless_int32.optional (fun _ => rfl) rfl)
      (lossless_bytes.optional (fun _ => rfl) rfl))
      (.cons (.member ht fun _ => rfl) (.list hrs fun _ => rfl)))
      (lossless_bytes.optional (fun _ => rfl) rfl))
      (.member hm fun _ => rfl))
      (lossless_int64.optional (fun _ => rfl) rfl)) rfl
  · rw [ht' h.entityResultType, hrs' h.entityResults, hm' h.moreResults]

theorem faithful_of_ofJson {j : Json} {b : QueryResultBatch} (h : ofJson j = .ok b) :
    b.Faithful := by
  have hd : Faithful {} := ⟨trivial, fun r h => (by cases h), trivial⟩
  refine readRecord_invariant hd (fun n x hx a b ha hb => ?_) h
  split at hb
  case h_3 =>
    obtain ⟨t, ht, rfl⟩ := of_map_ok hb
    exact ⟨OpenCode.genuine_of_ofJson ht, ha.entityResults, ha.moreResults⟩
  case h_4 =>
    obtain ⟨rs, hrs, rfl⟩ := of_map_ok hb
    refine ⟨ha.entityResultType, fun r hr => ?_, ha.moreResults⟩
    obtain ⟨y, hy, hr⟩ := of_readList hrs r hr
    exact EntityResult.faithful_of_ofJson hr
  case h_6 =>
    obtain ⟨m, hm, rfl⟩ := of_map_ok hb
    exact ⟨ha.entityResultType, ha.entityResults, OpenCode.genuine_of_ofJson hm⟩
  case h_8 =>
    cases hb
    exact ha
  all_goals
    obtain ⟨y, -, rfl⟩ := of_map_ok hb
    exact ⟨ha.entityResultType, ha.entityResults, ha.moreResults⟩

end QueryResultBatch

end CloudData.Wire
