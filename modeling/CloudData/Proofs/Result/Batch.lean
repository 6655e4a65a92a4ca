/-
Which batches a query takes, and what it makes of them.

`ofCode_ofNumber`, `ofCode_ofName`: the kind that a number or a name declares.
`narrow_of_accepts`: where a kind accepts another, whatever converts as the other
narrows to it. `decodeEntities_eq_ok`: entities whose results all narrow are
decoded one after the other. So once the declared kind is accepted nothing fails
any more, and a query for one kind of results gets one result for each entity.
-/
import CloudData.Proofs.Wire.OpenCode
import CloudData.Query.Request

namespace CloudData

namespace ResultKind

open Wire (OpenCode ResultCode CodeSet int32_range_iff)

/-! ## The declared kind -/

/-- The kind that a code in JSON stands for. -/
def ofJson (j : Json) : Json.Read ResultKind := (fun c => ofCode (some c)) <$> OpenCode.ofJson j

/-- A number that is not among those of the kinds declares none. -/
theorem ofCode_number_of_ne {n : Int32} (h₁ : n ≠ 1) (h₂ : n ≠ 2) (h₃ : n ≠ 3) :
    ofCode (some (.unknown (.number n))) = .unknown := by
  have hf : find? (.unknown (.number n)) = none := by
    refine List.find?_eq_none.2 fun k _ hk => ?_
    rw [beq_iff_eq] at hk
    cases k with
    | unknown => cases hk
    | entity => exact h₁ (Option.some.inj hk).symm
    | key => exact h₃ (Option.some.inj hk).symm
    | projection => exact h₂ (Option.some.inj hk).symm
  rw [ofCode, Option.bind_some, hf]
  rfl

theorem ofCode_ofNumber (n : Int32) :
    ofCode (some (OpenCode.ofNumber n)) =
      if n = 1 then .entity else if n = 2 then .projection else if n = 3 then .key else .unknown := by
  rcases OpenCode.ofNumber_cases (κ := ResultCode) n with ⟨c, rfl, h⟩ | ⟨hn, h⟩ <;> rw [h]
  · cases c <;> decide
  · have h₁ : n ≠ 1 := (hn .full).symm
    have h₂ : n ≠ 2 := (hn .projection).symm
    have h₃ : n ≠ 3 := (hn .keyOnly).symm
    rw [ofCode_number_of_ne h₁ h₂ h₃, if_neg h₁, if_neg h₂, if_neg h₃]

theorem ofCode_ofName (s : String) :
    ofCode (some (OpenCode.ofName s)) =
      if s = "FULL" then .entity else if s = "PROJECTION" then .projection
      else if s = "KEY_ONLY" then .key else .unknown := by
  rcases OpenCode.ofName_cases (κ := ResultCode) s with ⟨c, rfl, h⟩ | ⟨hs, h⟩ <;> rw [h]
  · cases c <;> decide
  · have h₁ : s ≠ "FULL" := (hs .full).symm
    have h₂ : s ≠ "PROJECTION" := (hs .projection).symm
    have h₃ : s ≠ "KEY_ONLY" := (hs .keyOnly).symm
    rw [if_neg h₁, if_neg h₂, if_neg h₃]
    rfl

theorem ofJson_str (s : String) :
    ofJson (.str s) =
      .ok (if s = "FULL" then .entity else if s = "PROJECTION" then .projection
        else if s = "KEY_ONLY" then .key else .unknown) :=
  congrArg Except.ok (ofCode_ofName s)

theorem ofInt_eq_iff {n m : Int} (hn : -2 ^ 31 ≤ n ∧ n < 2 ^ 31) (hm : -2 ^ 31 ≤ m ∧ m < 2 ^ 31) :
    Int32.ofInt n = Int32.ofInt m ↔ n = m := by
  rw [← Int32.toInt_inj, Int32.toInt_ofInt_of_le hn.1 hn.2, Int32.toInt_ofInt_of_le hm.1 hm.2]

theorem ofJson_int {n : Int} (h : -2 ^ 31 ≤ n ∧ n < 2 ^ 31) :
    ofJson (.int n) =
      .ok (if n = 1 then .entity else if n = 2 then .projection else if n = 3 then .key
        else .unknown) := by
  have h₁ : Int32.ofInt n = 1 ↔ n = 1 := ofInt_eq_iff h (m := 1) (by omega)
  have h₂ : Int32.ofInt n = 2 ↔ n = 2 := ofInt_eq_iff h (m := 2) (by omega)
  have h₃ : Int32.ofInt n = 3 ↔ n = 3 := ofInt_eq_iff h (m := 3) (by omega)
  rw [ofJson, OpenCode.ofJson, if_pos ((int32_range_iff n).2 h)]
  refine (congrArg Except.ok (ofCode_ofNumber _)).trans ?_
  simp only [h₁, h₂, h₃]

/-- A value in JSON that declares some kind is a number of 32 bits or a name. -/
theorem ofJson_eq_ok_cases {j : Json} {k : ResultKind} (h : ofJson j = .ok k) :
    (∃ n, j = .int n ∧ -2 ^ 31 ≤ n ∧ n < 2 ^ 31) ∨ ∃ s, j = .str s := by
  cases j with
  | int n =>
    by_cases hn : -2 ^ 31 ≤ n ∧ n < 2 ^ 31
    · exact .inl ⟨n, rfl, hn⟩
    · rw [ofJson, OpenCode.ofJson, if_neg fun hr => hn ((int32_range_iff n).1 hr)] at h
      cases h
  | str s => exact .inr ⟨s, rfl⟩
  | _ => cases h

/-- Of the kinds chosen by what their codes are known by, one that has a code was chosen by that of
its code. -/
theorem eq_of_code?_choice {α : Type} [DecidableEq α] (f : ResultCode → α) {a : α} {c : ResultCode}
    (h : code? (if a = f .full then .entity else if a = f .projection then .projection
      else if a = f .keyOnly then .key else .unknown) = some c) : a = f c := by
  split at h
  · cases h; assumption
  split at h
  · cases h; assumption
  split at h
  · cases h; assumption
  · cases h

/-- A kind that has a code is declared by the number and by the name of that code, and by nothing
else. -/
theorem ofJson_eq_ok_iff {k : ResultKind} {c : ResultCode} (hc : k.code? = some c) (j : Json) :
    ofJson j = .ok k ↔ j = .int (CodeSet.number c).toInt ∨ j = .str (CodeSet.name c) := by
  constructor
  · intro h
    rcases ofJson_eq_ok_cases h with ⟨n, rfl, hn⟩ | ⟨s, rfl⟩
    · rw [ofJson_int hn] at h
      cases h
      have hn : n = (CodeSet.number c).toInt :=
        eq_of_code?_choice (fun c => (CodeSet.number c).toInt) hc
      exact .inl (congrArg Json.int hn)
    · rw [ofJson_str] at h
      cases h
      exact .inr (congrArg Json.str (eq_of_code?_choice CodeSet.name hc))
  · rintro (rfl | rfl) <;> cases k <;> cases hc <;> rfl

/-- The unknown kind is declared by every other number of 32 bits and by every other name. -/
theorem ofJson_eq_unknown_iff (j : Json) :
    ofJson j = .ok .unknown ↔
      (∃ n, j = .int n ∧ (-2 ^ 31 ≤ n ∧ n < 2 ^ 31) ∧ n ≠ 1 ∧ n ≠ 2 ∧ n ≠ 3) ∨
      ∃ s, j = .str s ∧ s ≠ "FULL" ∧ s ≠ "PROJECTION" ∧ s ≠ "KEY_ONLY" := by
  constructor
  · intro h
    rcases ofJson_eq_ok_cases h with ⟨n, rfl, hn⟩ | ⟨s, rfl⟩
    · rw [ofJson_int hn] at h
      refine .inl ⟨n, rfl, hn, ?_, ?_, ?_⟩ <;> rintro rfl <;> cases h
    · rw [ofJson_str] at h
      refine .inr ⟨s, rfl, ?_, ?_, ?_⟩ <;> rintro rfl <;> cases h
  · rintro (⟨n, rfl, hn, h₁, h₂, h₃⟩ | ⟨s, rfl, h₁, h₂, h₃⟩)
    · rw [ofJson_int hn, if_neg h₁, if_neg h₂, if_neg h₃]
    · rw [ofJson_str, if_neg h₁, if_neg h₂, if_neg h₃]

/-! ## Converting and narrowing -/

/-- A kind other than the unknown one converts to results of that kind only. -/
theorem kind_of_convert {t : ResultKind} (ht : t ≠ .unknown) {w : Wire.Entity} {r : ResultValue}
    (h : t.convert w = some r) : r.kind = t := by
  cases t with
  | unknown => exact absurd rfl ht
  | entity => cases h; rfl
  | key => cases h; rfl
  | projection => cases h; rfl

theorem narrow_kind (r : ResultValue) : r.kind.narrow r ≠ none := by
  cases r <;> exact Option.some_ne_none _

/-- Where a kind accepts another, what converts as the other narrows to it. -/
theorem narrow_of_accepts {k t : ResultKind} (ha : k.accepts t = true) {w : Wire.Entity}
    {r : ResultValue} (h : t.convert w = some r) : k.narrow r ≠ none := by
  rw [accepts, Bool.or_eq_true, beq_iff_eq, beq_iff_eq] at ha
  rcases ha with rfl | rfl
  · exact Option.some_ne_none r
  · by_cases hk : k = .unknown
    · subst hk
      exact Option.some_ne_none r
    · rw [← kind_of_convert hk h]
      exact narrow_kind r

/-! ## Batches -/

/-- Entities whose results all narrow are decoded one after the other. -/
theorem decodeEntities_eq_ok {k t : ResultKind} {ws : List Wire.Entity}
    (h : ∀ w ∈ ws, ∀ r, t.convert w = some r → k.narrow r ≠ none) :
    decodeEntities k t ws = .ok (ws.filterMap fun w => (t.convert w).bind k.narrow) := by
  induction ws with
  | nil => rfl
  | cons w ws ih =>
    rw [List.forall_mem_cons] at h
    have ih := ih h.2
    rw [decodeEntities]
    split
    · rename_i hc
      rw [ih, List.filterMap_cons_none (by rw [hc]; rfl)]
    · rename_i r hc
      split
      · rename_i x hx
        rw [ih, List.filterMap_cons_some (by rw [hc]; exact hx)]
        rfl
      · rename_i hx
        exact absurd hx (h.1 r hc)

/-- A batch whose kind is accepted is decoded whole, and any other is refused. -/
theorem decodeBatch_eq (k : ResultKind) (b : Wire.QueryResultBatch) :
    k.decodeBatch k b =
      if k.accepts (ofCode (some b.entityResultType)) then
        .ok (b.entityResults.filterMap fun r =>
          ((ofCode (some b.entityResultType)).convert (r.entity.getD {})).bind k.narrow)
      else .error ⟨.deserialization, .mismatch k (ofCode (some b.entityResultType))⟩ := by
  unfold decodeBatch
  split
  · rename_i ha
    rw [decodeEntities_eq_ok fun w _ r hr => narrow_of_accepts ha hr, Wire.QueryResultBatch.entities,
      List.filterMap_map]
    exact (if_pos ha).symm
  · rename_i ha
    exact (if_neg ha).symm

/-- A kind that gives a result for every entity of a batch of that kind accepts no other batch. -/
theorem decodeBatch_eq_map {k : ResultKind} (hk : k ≠ .unknown) {f : Wire.Entity → k.Result}
    (hf : ∀ w, (k.convert w).bind k.narrow = some (f w)) (b : Wire.QueryResultBatch) :
    k.decodeBatch k b =
      if ofCode (some b.entityResultType) = k then
        .ok (b.entityResults.map fun r => f (r.entity.getD {}))
      else .error ⟨.deserialization, .mismatch k (ofCode (some b.entityResultType))⟩ := by
  rw [decodeBatch_eq]
  by_cases hb : ofCode (some b.entityResultType) = k
  · have ha : k.accepts (ofCode (some b.entityResultType)) = true := by simp [accepts, hb]
    rw [if_pos ha, if_pos hb, hb, ← List.filterMap_eq_map]
    exact congrArg (fun g => Except.ok (b.entityResults.filterMap g)) (funext fun r => hf _)
  · have ha : ¬ k.accepts (ofCode (some b.entityResultType)) = true := by
      simp [accepts, hk, Ne.symm hb]
    rw [if_neg ha, if_neg hb]

/-- The unknown kind accepts every batch, and leaves out what converts to nothing. -/
theorem decodeBatch_unknown (b : Wire.QueryResultBatch) :
    decodeBatch .unknown .unknown b =
      .ok (b.entityResults.filterMap fun r =>
        (ofCode (some b.entityResultType)).convert (r.entity.getD {})) := by
  rw [decodeBatch_eq]
  refine (if_pos rfl).trans (congrArg (fun g => Except.ok (b.entityResults.filterMap g)) ?_)
  exact funext fun r => Option.bind_fun_some _

end ResultKind

/-- **A query takes the batches that declare its kind, whole, and no others.** A number or a name in
JSON declares a kind exactly as its code does; a query for entities, keys or projected entities gets
one result for each entity of a batch of its kind, in order, a missing entity being an empty one, and
refuses any other batch, empty or not; a query for results of unknown kind takes every batch. No result
of a batch that is accepted fails to narrow. -/
theorem Query.decodes_declared :
    ((∀ j, ResultKind.ofJson j = .ok .entity ↔ j = .int 1 ∨ j = .str "FULL") ∧
      (∀ j, ResultKind.ofJson j = .ok .projection ↔ j = .int 2 ∨ j = .str "PROJECTION") ∧
      (∀ j, ResultKind.ofJson j = .ok .key ↔ j = .int 3 ∨ j = .str "KEY_ONLY") ∧
      ∀ j, ResultKind.ofJson j = .ok .unknown ↔
        (∃ n, j = .int n ∧ (-2 ^ 31 ≤ n ∧ n < 2 ^ 31) ∧ n ≠ 1 ∧ n ≠ 2 ∧ n ≠ 3) ∨
        ∃ s, j = .str s ∧ s ≠ "FULL" ∧ s ≠ "PROJECTION" ∧ s ≠ "KEY_ONLY") ∧
    (∀ (q : Query .entity) b, q.decodeBatch b =
      if ResultKind.ofCode (some b.entityResultType) = .entity then
        .ok (b.entityResults.map fun r => Entity.ofWire (r.entity.getD {}))
      else .error ⟨.deserialization, .mismatch .entity (.ofCode (some b.entityResultType))⟩) ∧
    (∀ (q : Query .key) b, q.decodeBatch b =
      if ResultKind.ofCode (some b.entityResultType) = .key then
        .ok (b.entityResults.map fun r => ((r.entity.getD {}).key.map Key.ofWire).getD {})
      else .error ⟨.deserialization, .mismatch .key (.ofCode (some b.entityResultType))⟩) ∧
    (∀ (q : Query .projection) b, q.decodeBatch b =
      if ResultKind.ofCode (some b.entityResultType) = .projection then
        .ok (b.entityResults.map fun r => ProjectionEntity.ofWire (r.entity.getD {}))
      else .error ⟨.deserialization, .mismatch .projection (.ofCode (some b.entityResultType))⟩) ∧
    (∀ (q : Query .unknown) b, q.decodeBatch b =
      .ok (b.entityResults.filterMap fun r =>
        (ResultKind.ofCode (some b.entityResultType)).convert (r.entity.getD {}))) ∧
    ¬ ∃ (k : ResultKind) (b : Wire.QueryResultBatch) (r : Wire.EntityResult) (v : ResultValue),
      k.accepts (.ofCode (some b.entityResultType)) ∧ r ∈ b.entityResults ∧
      (ResultKind.ofCode (some b.entityResultType)).convert (r.entity.getD {}) = some v ∧
      k.narrow v = none := by
  refine ⟨⟨ResultKind.ofJson_eq_ok_iff (c := .full) rfl,
    ResultKind.ofJson_eq_ok_iff (c := .projection) rfl, ResultKind.ofJson_eq_ok_iff (c := .keyOnly) rfl,
    ResultKind.ofJson_eq_unknown_iff⟩, ?_, ?_, ?_, ?_, ?_⟩
  · exact fun _ => ResultKind.decodeBatch_eq_map (by decide) fun _ => rfl
  · exact fun _ => ResultKind.decodeBatch_eq_map (k := .key) (f := fun w => (w.key.map Key.ofWire).getD {})
      (by decide) fun _ => rfl
  · exact fun _ => ResultKind.decodeBatch_eq_map (by decide) fun _ => rfl
  · exact fun _ => ResultKind.decodeBatch_unknown
  · rintro ⟨k, b, r, v, ha, -, hv, hn⟩
    exact ResultKind.narrow_of_accepts ha hv hn

/-- A batch that declares keys, with a key and a missing entity, is one for a query for keys, which gets
two of them, and for no query for entities. -/
theorem Query.decodes_declared_keys :
    let b : Wire.QueryResultBatch :=
      { entityResultType := .known .keyOnly
        entityResults := [{ entity := some { key := some { path := [{ kind := "Task" }] } } }, {}] }
    (Query.gql (k := .key) { queryString := "q" }).decodeBatch b = .ok [{ path := [{ kind := "Task" }] }, {}] ∧
    (Query.gql (k := .entity) { queryString := "q" }).decodeBatch b =
      .error ⟨.deserialization, .mismatch .entity .key⟩ := by
  intro b
  obtain ⟨-, hentity, hkey, -⟩ := Query.decodes_declared
  rw [hentity, hkey]
  exact ⟨rfl, rfl⟩

end CloudData
