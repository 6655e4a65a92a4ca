/-
Values and entities in JSON. Written and read again, every message is there, and
it is the same one if it is faithful: every double in it is finite, and the names
of every map ascend, as names of maps do. Whatever was read is faithful.

The way back is by induction over the message, the way forth by recursion over
the JSON value that is read.
-/
import CloudData.Proofs.Wire.Lossless
import CloudData.Proofs.Wire.Throughout

namespace CloudData.Wire

open Json

/-! ## Faithful messages -/

/-- Every double in the value is finite, and the names of every map in it ascend. -/
def Value.Faithful (v : Value) : Prop :=
  v.Throughout (fun v => ∀ d ∈ v.doubleValue, d.isFinite = true) fun e => e.properties.Ascending

/-- Every double in the entity is finite, and the names of every map in it ascend. -/
def Entity.Faithful (e : Entity) : Prop :=
  e.Throughout (fun v => ∀ d ∈ v.doubleValue, d.isFinite = true) fun e => e.properties.Ascending

theorem Value.faithful_iff (v : Value) :
    v.Faithful ↔ (∀ d ∈ v.doubleValue, d.isFinite = true) ∧ (∀ e ∈ v.entityValue, e.Faithful) ∧
      ∀ vs ∈ v.arrayValue, ∀ w ∈ vs, w.Faithful :=
  Value.throughout_iff v

theorem Entity.faithful_iff (e : Entity) :
    e.Faithful ↔ e.properties.Ascending ∧ ∀ p ∈ e.properties.entries, p.2.Faithful :=
  Entity.throughout_iff e

/-! ## Writing -/

theorem Value.allToJson_eq_map (vs : List Value) : Value.allToJson vs = vs.map Value.toJson := by
  induction vs with
  | nil => rfl
  | cons v vs ih => rw [Value.allToJson, ih, List.map_cons]

theorem Value.propertiesToJson_eq_map (ps : List (String × Value)) :
    Value.propertiesToJson ps = ps.map fun p => (p.1, p.2.toJson) := by
  induction ps with
  | nil => rfl
  | cons p ps ih => rw [Value.propertiesToJson, ih, List.map_cons]

theorem Value.toJson_eq (v : Value) :
    v.toJson =
      .obj (optional "booleanValue" .bool v.booleanValue ++
        optional "integerValue" ofInt64 v.integerValue ++
        optional "doubleValue" ofDouble v.doubleValue ++ optional "keyValue" Key.toJson v.keyValue ++
        optional "stringValue" .str v.stringValue ++ optional "blobValue" ofBytes v.blobValue ++
        optional "entityValue" Entity.toJson v.entityValue ++
        optional "arrayValue" Value.arrayToJson v.arrayValue ++
        optional "meaning" ofInt32 v.meaning ++
        optional "excludeFromIndexes" .bool v.excludeFromIndexes) := by
  obtain ⟨b, i, d, k, s, x, e, a, m, o⟩ := v
  cases e <;> cases a <;> rfl

theorem Entity.toJson_eq (e : Entity) :
    e.toJson =
      .obj (optional "key" Key.toJson e.key ++
        if e.properties.isEmpty then []
        else [("properties", .obj (e.properties.mapValues Value.toJson).entries)]) := by
  obtain ⟨k, ⟨ps⟩⟩ := e
  cases ps with
  | nil => rfl
  | cons p ps =>
    have hp := Value.propertiesToJson_eq_map (p :: ps)
    exact congrArg (fun ms => Json.obj (optional "key" Key.toJson k ++ [("properties", .obj ms)])) hp

/-! ## Written and read -/

theorem Value.toJson_ne_null (v : Value) : v.toJson ≠ .null := by
  rw [Value.toJson_eq]
  nofun

theorem Entity.toJson_ne_null (e : Entity) : e.toJson ≠ .null := by
  rw [Entity.toJson_eq]
  nofun

theorem Value.arrayToJson_ne_null (vs : List Value) : Value.arrayToJson vs ≠ .null := nofun

theorem Value.restored_array {vs : List Value}
    (h : ∀ v ∈ vs, Restored (Value.ofJson v.toJson) v.Faithful v) :
    Restored (Value.arrayOfJson (Value.arrayToJson vs)) (∀ v ∈ vs, v.Faithful) vs := by
  obtain ⟨ws, hws, he⟩ := Restored.list h
  refine ⟨ws, ?_, he⟩
  rw [Value.arrayOfJson, Value.arrayToJson, Value.allToJson_eq_map]
  exact readRecord_of_reads (.single hws) rfl

theorem restored_compositional :
    Compositional (fun v => Restored (Value.ofJson v.toJson) v.Faithful v)
      (fun e => Restored (Entity.ofJson e.toJson) e.Faithful e) where
  value v he ha := by
    -- of the ten fields only these three can come back changed
    obtain ⟨d, hd, hd'⟩ := restored_double v.doubleValue
    obtain ⟨e, he, he'⟩ := Restored.reread Entity.toJson_ne_null he
    obtain ⟨a, ha, ha'⟩ := Restored.reread Value.arrayToJson_ne_null fun vs h =>
      Value.restored_array (ha vs h)
    refine ⟨{ v with doubleValue := d, entityValue := e, arrayValue := a }, ?_, fun h => ?_⟩
    · rw [Value.toJson_eq, Value.ofJson]
      exact readRecord_of_reads (.append (.append (.append (.append (.append (.append (.append (.append
        (.append
        (lossless_bool.optional (fun _ => rfl) rfl)
        (lossless_int64.optional (fun _ => rfl) rfl))
        (.optional hd (fun _ => rfl) rfl))
        (Key.lossless.optional (fun _ => rfl) rfl))
        (lossless_string.optional (fun _ => rfl) rfl))
        (lossless_bytes.optional (fun _ => rfl) rfl))
        (.optional he (fun _ => rfl) rfl))
        (.optional ha (fun _ => rfl) rfl))
        (lossless_int32.optional (fun _ => rfl) rfl))
        (lossless_bool.optional (fun _ => rfl) rfl)) rfl
    · obtain ⟨h₁, h₂, h₃⟩ := (Value.faithful_iff v).1 h
      obtain rfl := hd' h₁
      obtain rfl := he' h₂
      obtain rfl := ha' h₃
      cases v
      rfl
  entity e hp := by
    obtain ⟨ps, hps, hp'⟩ := Restored.map hp
    refine ⟨{ e with properties := ps }, ?_, fun h => ?_⟩
    · rw [Entity.toJson_eq, Entity.ofJson]
      exact readRecord_of_reads (.append (Key.lossless.optional (fun _ => rfl) rfl)
        (.unlessEmptyMap hps (fun _ => rfl) rfl)) rfl
    · obtain rfl := hp' ((Entity.faithful_iff e).1 h)
      cases e
      rfl

/-- A value that was written can be read, and is the same one if it is faithful. -/
theorem Value.restored (v : Value) : Restored (Value.ofJson v.toJson) v.Faithful v :=
  restored_compositional.forall_value v

/-- An entity that was written can be read, and is the same one if it is faithful. -/
theorem Entity.restored (e : Entity) : Restored (Entity.ofJson e.toJson) e.Faithful e :=
  restored_compositional.forall_entity e

/-! ## Read from any JSON value -/

mutual

theorem Value.faithful_of_ofJson (j : Json) {v : Value} (h : Value.ofJson j = .ok v) :
    v.Faithful := by
  rw [Value.ofJson] at h
  refine readRecord_invariant ((Value.faithful_iff _).2 (by simp)) (fun n x hx a b ha hb => ?_) h
  rw [Value.faithful_iff] at ha ⊢
  -- fields that hold no double and no map change nothing that is asked of the value
  split at hb
  case h_3 =>
    obtain ⟨d, hd, rfl⟩ := of_map_ok hb
    exact ⟨fun d h => isFinite_of_readDouble (of_readOption hd d h), ha.2⟩
  case h_7 =>
    obtain ⟨e, he, rfl⟩ := of_map_ok hb
    exact ⟨ha.1, fun e h => Entity.faithful_of_ofJson x (of_readOption he e h), ha.2.2⟩
  case h_8 =>
    obtain ⟨vs, hvs, rfl⟩ := of_map_ok hb
    exact ⟨ha.1, ha.2.1, fun vs h => Value.faithful_of_arrayOfJson x (of_readOption hvs vs h)⟩
  case h_11 =>
    cases hb
    exact ha
  all_goals
    obtain ⟨y, -, rfl⟩ := of_map_ok hb
    exact ha
termination_by sizeOf j

theorem Value.faithful_of_arrayOfJson (j : Json) {vs : List Value}
    (h : Value.arrayOfJson j = .ok vs) : ∀ v ∈ vs, v.Faithful := by
  rw [Value.arrayOfJson] at h
  refine readRecord_invariant (P := fun vs => ∀ v ∈ vs, v.Faithful) (by simp)
    (fun n x hx a b ha hb => ?_) h
  split at hb
  · intro v hv
    obtain ⟨y, hy, hv⟩ := of_readList hb v hv
    exact Value.faithful_of_ofJson y hv
  · cases hb
    exact ha
termination_by sizeOf j

theorem Entity.faithful_of_ofJson (j : Json) {e : Entity} (h : Entity.ofJson j = .ok e) :
    e.Faithful := by
  rw [Entity.ofJson] at h
  refine readRecord_invariant ((Entity.faithful_iff _).2 ⟨NameMap.ascending_empty, by simp⟩)
    (fun n x hx a b ha hb => ?_) h
  rw [Entity.faithful_iff] at ha ⊢
  split at hb
  · obtain ⟨k, -, rfl⟩ := of_map_ok hb
    exact ha
  · obtain ⟨ps, hps, rfl⟩ := of_map_ok hb
    refine ⟨(of_readMap hps).1, fun p hp => ?_⟩
    obtain ⟨y, hy, hv⟩ := (of_readMap hps).2 p hp
    exact Value.faithful_of_ofJson y hv
  · cases hb
    exact ha
termination_by sizeOf j

end

/-! ## Results -/

/-- What there is of the entity is faithful. -/
def EntityResult.Faithful (r : EntityResult) : Prop := ∀ e ∈ r.entity, e.Faithful

namespace EntityResult

theorem restored (r : EntityResult) : Restored (ofJson r.toJson) r.Faithful r := by
  obtain ⟨e, he, he'⟩ := Restored.reread (o := r.entity) Entity.toJson_ne_null fun e _ => e.restored
  refine ⟨{ r with entity := e }, ?_, fun h => ?_⟩
  · exact readRecord_of_reads (.append (.append
      (.optional he (fun _ => rfl) rfl)
      (lossless_int64.optional (fun _ => rfl) rfl))
      (lossless_bytes.optional (fun _ => rfl) rfl)) rfl
  · rw [he' h]

theorem faithful_of_ofJson {j : Json} {r : EntityResult} (h : ofJson j = .ok r) : r.Faithful := by
  refine readRecord_invariant (P := Faithful) (fun e h => by cases h) (fun n x hx a b ha hb => ?_) h
  split at hb
  · obtain ⟨e, he, rfl⟩ := of_map_ok hb
    exact fun e h => Entity.faithful_of_ofJson x (of_readOption he e h)
  · obtain ⟨y, -, rfl⟩ := of_map_ok hb
    exact ha
  · obtain ⟨y, -, rfl⟩ := of_map_ok hb
    exact ha
  · cases hb
    exact ha

end EntityResult

end CloudData.Wire
