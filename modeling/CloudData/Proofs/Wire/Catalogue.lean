/-
All messages in JSON, from one table: which messages of each type come back as
they were, and that whatever was read does.
-/
import CloudData.Proofs.Wire.Query
import CloudData.Wire.Catalogue

namespace CloudData.Wire

open Json

/-- A type of messages, with what makes a message of it faithful: the doubles in it are finite, its
unknown codes have neither number nor name of a known one, and the names of its maps ascend. -/
structure FaithfulType extends MessageType where
  faithful : carrier → Prop

namespace FaithfulType

/-- A type of messages that have nothing in them to ask for. -/
def plain (t : MessageType) : FaithfulType := ⟨t, fun _ => True⟩

/-- All types of messages. -/
def all : List FaithfulType :=
  [plain ⟨"PartitionId", PartitionId, inferInstance⟩,
    plain ⟨"Key", Key, inferInstance⟩,
    plain ⟨"PathElement", PathElement, inferInstance⟩,
    ⟨⟨"ArrayValue", List Value, inferInstance⟩, fun vs => ∀ v ∈ vs, v.Faithful⟩,
    ⟨⟨"Value", Value, inferInstance⟩, Value.Faithful⟩,
    ⟨⟨"Entity", Entity, inferInstance⟩, Entity.Faithful⟩,
    ⟨⟨"EntityResult", EntityResult, inferInstance⟩, EntityResult.Faithful⟩,
    ⟨⟨"ResultType", OpenCode ResultCode, inferInstance⟩, OpenCode.Genuine⟩,
    ⟨⟨"QueryResultBatch", QueryResultBatch, inferInstance⟩, QueryResultBatch.Faithful⟩,
    ⟨⟨"MoreResultsType", OpenCode MoreCode, inferInstance⟩, OpenCode.Genuine⟩,
    plain ⟨"PropertyReference", PropertyReference, inferInstance⟩,
    plain ⟨"KindExpression", KindExpression, inferInstance⟩,
    plain ⟨"Projection", Projection, inferInstance⟩,
    plain ⟨"PropertyOrder", PropertyOrder, inferInstance⟩,
    plain ⟨"Direction", Direction, inferInstance⟩,
    ⟨⟨"Filter", Filter, inferInstance⟩, Filter.Faithful⟩,
    ⟨⟨"CompositeFilter", CompositeFilter, inferInstance⟩, CompositeFilter.Faithful⟩,
    plain ⟨"CompositeOperator", CompositeOperator, inferInstance⟩,
    ⟨⟨"PropertyFilter", PropertyFilter, inferInstance⟩, PropertyFilter.Faithful⟩,
    plain ⟨"PropertyOperator", PropertyOperator, inferInstance⟩,
    ⟨⟨"Query", Query, inferInstance⟩, Query.Faithful⟩,
    ⟨⟨"GqlQueryParameter", GqlQueryParameter, inferInstance⟩, GqlQueryParameter.Faithful⟩,
    ⟨⟨"GqlQuery", GqlQuery, inferInstance⟩, GqlQuery.Faithful⟩,
    ⟨⟨"RunQueryRequest", RunQueryRequest, inferInstance⟩, RunQueryRequest.Faithful⟩,
    plain ⟨"ProjectTeam", ProjectTeam, inferInstance⟩,
    plain ⟨"BucketAccessControl", BucketAccessControl, inferInstance⟩,
    plain ⟨"ObjectAccessControl", ObjectAccessControl, inferInstance⟩]

/-- What was written can be read, and is the same if it is faithful; what was read is faithful. -/
structure Law (t : FaithfulType) : Prop where
  restored : ∀ m, Restored (t.message.ofJson (t.message.toJson m)) (t.faithful m) m
  faithful_of_ofJson : ∀ j m, t.message.ofJson j = .ok m → t.faithful m

theorem law_plain {t : MessageType} (h : Lossless t.message.toJson t.message.ofJson) :
    (plain t).Law where
  restored m := ⟨m, h.read_write m, fun _ => rfl⟩
  faithful_of_ofJson _ _ _ := trivial

/-- The law holds of every type of messages. -/
theorem law_of_mem : ∀ t ∈ all, t.Law := by
  simp only [all, List.forall_mem_cons]
  exact ⟨law_plain PartitionId.lossless, law_plain Key.lossless, law_plain PathElement.lossless,
    ⟨fun _ => Value.restored_array fun v _ => v.restored, fun j _ => Value.faithful_of_arrayOfJson j⟩,
    ⟨Value.restored, fun j _ => Value.faithful_of_ofJson j⟩,
    ⟨Entity.restored, fun j _ => Entity.faithful_of_ofJson j⟩,
    ⟨EntityResult.restored, fun _ _ => EntityResult.faithful_of_ofJson⟩,
    ⟨OpenCode.ofJson_toJson, fun _ _ => OpenCode.genuine_of_ofJson⟩,
    ⟨QueryResultBatch.restored, fun _ _ => QueryResultBatch.faithful_of_ofJson⟩,
    ⟨OpenCode.ofJson_toJson, fun _ _ => OpenCode.genuine_of_ofJson⟩,
    law_plain PropertyReference.lossless, law_plain KindExpression.lossless,
    law_plain Projection.lossless, law_plain PropertyOrder.lossless, law_plain NameSet.lossless,
    ⟨Filter.restored, fun j _ => Filter.faithful_of_ofJson j⟩,
    ⟨CompositeFilter.restored, fun j _ => CompositeFilter.faithful_of_ofJson j⟩,
    law_plain NameSet.lossless,
    ⟨PropertyFilter.restored, fun _ _ => PropertyFilter.faithful_of_ofJson⟩,
    law_plain NameSet.lossless,
    ⟨Query.restored, fun _ _ => Query.faithful_of_ofJson⟩,
    ⟨GqlQueryParameter.restored, fun _ _ => GqlQueryParameter.faithful_of_ofJson⟩,
    ⟨GqlQuery.restored, fun _ _ => GqlQuery.faithful_of_ofJson⟩,
    ⟨RunQueryRequest.restored, fun _ _ => RunQueryRequest.faithful_of_ofJson⟩,
    law_plain ProjectTeam.lossless, law_plain BucketAccessControl.lossless,
    law_plain ObjectAccessControl.lossless, List.forall_mem_nil _⟩

/-- A type that keeps the law gives back the faithful messages and no others. -/
theorem Law.restored_iff {t : FaithfulType} (h : t.Law) (m : t.carrier) :
    ∃ n, t.message.ofJson (t.message.toJson m) = .ok n ∧ (n = m ↔ t.faithful m) := by
  obtain ⟨n, hn, he⟩ := h.restored m
  refine ⟨n, hn, fun hm => ?_, he⟩
  rw [← hm]
  exact h.faithful_of_ofJson _ n hn

end FaithfulType

/-- **Reading JSON undoes writing it, for every type of messages.** Each message that was written can
be read, and is the same one exactly if it is faithful: that its maps are written the way maps are,
its doubles are finite, and its unknown codes are not those of known ones. Any message that was read
is faithful, so that it can be written and read over and over. -/
theorem ofJson_toJson_iff_faithful :
    FaithfulType.all.map FaithfulType.toMessageType = MessageType.all ∧
    ∀ t ∈ FaithfulType.all,
      (∀ m, ∃ n, t.message.ofJson (t.message.toJson m) = .ok n ∧ (n = m ↔ t.faithful m)) ∧
      ∀ j m, t.message.ofJson j = .ok m →
        t.faithful m ∧ t.message.ofJson (t.message.toJson m) = .ok m := by
  refine ⟨rfl, fun t ht => ?_⟩
  have hl := FaithfulType.law_of_mem t ht
  refine ⟨hl.restored_iff, fun j m hm => ?_⟩
  have hf := hl.faithful_of_ofJson j m hm
  obtain ⟨n, hn, he⟩ := hl.restored m
  exact ⟨hf, by rw [hn, he hf]⟩

end CloudData.Wire
