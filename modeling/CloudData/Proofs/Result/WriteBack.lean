/-
Results of unknown kind, written back as messages. A canonical message survives
being a result: as an entity or a projected one it comes back whole, as a key
without its properties. So nothing of a batch is lost but what its declared kind
leaves out, and nothing is added or moved.

`toWire_convert_entity`, `toWire_convert_projection`, `toWire_convert_key`,
`toWire_convert_unknown`: one message as a result of each kind, written back.
-/
import CloudData.Proofs.Entity.Canonical
import CloudData.Proofs.Result.Batch
import Mathlib.Data.List.Basic

namespace CloudData

namespace ResultKind

section
variable {w : Wire.Entity}

theorem toWire_convert_entity (ho : w.Ordered) (hc : w.Canonical) :
    (convert .entity w).map ResultValue.toWire = some w :=
  congrArg some ((Entity.toWire_ofWire_iff w).2 ⟨ho, hc⟩)

theorem toWire_convert_projection (ho : w.Ordered) (hc : w.Canonical) :
    (convert .projection w).map ResultValue.toWire = some w :=
  congrArg some ((Entity.toWire_ofWire_iff w).2 ⟨ho, hc⟩)

/-- A key comes back without the properties beside it. -/
theorem toWire_convert_key (hc : w.Canonical) (hk : w.key.isSome) :
    (convert .key w).map ResultValue.toWire = some { w with properties := {} } := by
  obtain ⟨k, ps⟩ := w
  obtain ⟨k, rfl⟩ := Option.isSome_iff_exists.1 hk
  have hk : (Key.ofWire k).toWire = k :=
    Key.toWire_ofWire (((Wire.Entity.throughout_iff _).1 hc).1 k rfl)
  simp [convert, ResultValue.toWire, hk]

theorem without_properties_eq (hp : w.properties.isEmpty) :
    ({ w with properties := {} } : Wire.Entity) = w := by
  obtain ⟨k, ⟨ps⟩⟩ := w
  have hps : ps = [] := List.isEmpty_iff.1 hp
  rw [hps]

/-- A message that is classified by its content comes back whole, whatever it was taken for. -/
theorem toWire_convert_unknown (ho : w.Ordered) (hc : w.Canonical) :
    (convert .unknown w).map ResultValue.toWire =
      if w.key.isNone && w.properties.isEmpty then none else some w := by
  by_cases hp : w.properties.isEmpty
  · cases hk : w.key with
    | none => simp [convert, hp, hk]
    | some k =>
      have h := toWire_convert_key hc (by rw [hk]; rfl)
      rw [without_properties_eq hp] at h
      simpa [convert, hp, hk] using h
  · have h := toWire_convert_projection ho hc
    simpa [convert, hp] using h

end

end ResultKind

/-- The entities that a batch has are canonical, with the names of their maps in order; where an
entity is missing there is nothing to ask. -/
def Wire.QueryResultBatch.Canonical (b : Wire.QueryResultBatch) : Prop :=
  ∀ r ∈ b.entityResults, ∀ w ∈ r.entity, w.Ordered ∧ w.Canonical

theorem Wire.Entity.ordered_empty : ({} : Wire.Entity).Ordered :=
  (Wire.Entity.throughout_iff _).2 ⟨NameMap.ascending_empty, nofun⟩

theorem Wire.Entity.canonical_empty : ({} : Wire.Entity).Canonical :=
  (Wire.Entity.throughout_iff _).2 ⟨nofun, nofun⟩

theorem Wire.QueryResultBatch.Canonical.entities {b : Wire.QueryResultBatch} (h : b.Canonical) :
    ∀ w ∈ b.entities, w.Ordered ∧ w.Canonical := by
  intro w hw
  obtain ⟨r, hr, rfl⟩ := List.mem_map.1 hw
  cases he : r.entity with
  | none => exact ⟨Wire.Entity.ordered_empty, Wire.Entity.canonical_empty⟩
  | some w => exact h r hr w he

/-- **Decoding a batch for results of any kind neither loses nor invents nor reorders anything.**
It succeeds, and the results written back are the entities of the batch in their order: all of them
whole, if it declares entities or projected entities; all but those that are entirely empty, if it
declares nothing; and all without their properties, if it declares keys and there is a key in each. -/
theorem ResultKind.decodeBatch_unknown_written_back {b : Wire.QueryResultBatch} (h : b.Canonical) :
    ∃ rs : List ResultValue, decodeBatch .unknown .unknown b = .ok rs ∧
      let es : List Wire.Entity := b.entityResults.map fun r => r.entity.getD {}
      match ofCode (some b.entityResultType) with
      | .entity | .projection => rs.map ResultValue.toWire = es
      | .unknown =>
        rs.map ResultValue.toWire = es.filter fun w => !(w.key.isNone && w.properties.isEmpty)
      | .key =>
        (∀ w ∈ es, w.key.isSome) →
          rs.map ResultValue.toWire = es.map fun w => { w with properties := {} } := by
  have h : ∀ w ∈ b.entityResults.map fun r => r.entity.getD {}, w.Ordered ∧ w.Canonical := h.entities
  refine ⟨(b.entityResults.map fun r => r.entity.getD {}).filterMap
    (ofCode (some b.entityResultType)).convert, ?_, ?_⟩
  · rw [decodeBatch_unknown, List.filterMap_map]
    rfl
  rw [List.map_filterMap]
  generalize (b.entityResults.map fun r => r.entity.getD {}) = es at h ⊢
  dsimp only
  cases ofCode (some b.entityResultType) with
  | entity =>
    rw [List.filterMap_congr fun w hw => toWire_convert_entity (h w hw).1 (h w hw).2]
    exact List.filterMap_some
  | projection =>
    rw [List.filterMap_congr fun w hw => toWire_convert_projection (h w hw).1 (h w hw).2]
    exact List.filterMap_some
  | unknown =>
    rw [List.filterMap_congr fun w hw => toWire_convert_unknown (h w hw).1 (h w hw).2,
      ← List.filterMap_eq_filter]
    refine List.filterMap_congr fun w _ => ?_
    rw [Option.guard]
    cases w.key.isNone && w.properties.isEmpty <;> rfl
  | key =>
    intro hk
    rw [List.filterMap_congr fun w hw => toWire_convert_key (h w hw).2 (hk w hw)]
    exact congrFun List.filterMap_eq_map es

/-- A projected entity, a missing one and a key: the missing one is left out where nothing is declared,
and is an empty entity where entities or projected ones are. Where keys are declared, an entity with a
key loses its properties. -/
theorem ResultKind.decodeBatch_unknown_mixed :
    let w : Wire.Entity :=
      { properties := ⟨[("done", { booleanValue := some true, meaning := some 3 })]⟩ }
    let k : Wire.Entity := { key := some { partitionId := some {}, path := [{ kind := "Task" }] } }
    let rs : List Wire.EntityResult := [{ entity := some w }, {}, { entity := some k }]
    let undeclared : Wire.QueryResultBatch := { entityResults := rs }
    let whole : Wire.QueryResultBatch := { entityResultType := .known .full, entityResults := rs }
    let projected : Wire.QueryResultBatch :=
      { entityResultType := .known .projection, entityResults := rs }
    let keys : Wire.QueryResultBatch :=
      { entityResultType := .known .keyOnly
        entityResults := [{ entity := some { k with properties := w.properties } }] }
    (undeclared.Canonical ∧ ∃ vs : List ResultValue,
      decodeBatch .unknown .unknown undeclared = .ok vs ∧ vs.map ResultValue.toWire = [w, k]) ∧
    (whole.Canonical ∧ ∃ vs : List ResultValue,
      decodeBatch .unknown .unknown whole = .ok vs ∧ vs.map ResultValue.toWire = [w, {}, k]) ∧
    (projected.Canonical ∧ ∃ vs : List ResultValue,
      decodeBatch .unknown .unknown projected = .ok vs ∧ vs.map ResultValue.toWire = [w, {}, k]) ∧
    keys.Canonical ∧ ∃ vs : List ResultValue,
      decodeBatch .unknown .unknown keys = .ok vs ∧ vs.map ResultValue.toWire = [k] := by
  intro w k rs undeclared whole projected keys
  have hw : w.Ordered ∧ w.Canonical := (Entity.toWire_ofWire_iff w).1 rfl
  have hk : k.Ordered ∧ k.Canonical := (Entity.toWire_ofWire_iff k).1 rfl
  have hrs : ∀ r ∈ rs, ∀ v ∈ r.entity, v.Ordered ∧ v.Canonical := by
    intro r hr v hv
    simp only [rs, List.mem_cons, List.not_mem_nil, or_false] at hr
    rcases hr with rfl | rfl | rfl
    · cases hv; exact hw
    · cases hv
    · cases hv; exact hk
  have hkeys : keys.Canonical := by
    intro r hr v hv
    obtain rfl := List.mem_singleton.1 hr
    cases hv
    exact (Entity.toWire_ofWire_iff _).1 rfl
  refine ⟨⟨hrs, decodeBatch_unknown_written_back (b := undeclared) hrs⟩,
    ⟨hrs, decodeBatch_unknown_written_back (b := whole) hrs⟩,
    ⟨hrs, decodeBatch_unknown_written_back (b := projected) hrs⟩, hkeys, ?_⟩
  obtain ⟨vs, hvs, hback⟩ := decodeBatch_unknown_written_back hkeys
  exact ⟨vs, hvs, hback (by simp [keys, k])⟩

end CloudData
