/-
Results whose kind is found out from their content. An entity is taken for
something that it could have been declared to be, it becomes the result that it
would have become then, and nothing of what it says is lost.

`ResultKind.convert_unknown`: finding out a kind is declaring the kind that shows.
`ResultKind.convert_kind`: a result is the one that its own kind gives.
-/
import CloudData.Proofs.Result.Batch

namespace CloudData

/-- What a result says, as an entity: a key says nothing beside itself. -/
def ResultValue.content : ResultValue → Entity
  | .entity e => e
  | .key k => .ofKey k
  | .projection p => p.content

theorem ResultValue.kind_ne_unknown (r : ResultValue) : r.kind ≠ .unknown := by
  cases r <;> exact fun h => by cases h

/-- An entity without properties says no more than its key. -/
theorem Entity.ofWire_of_isEmpty {w : Wire.Entity} (hp : w.properties.isEmpty = true) :
    Entity.ofWire w = { key := w.key.map Key.ofWire } := by
  obtain ⟨k, ⟨ps⟩⟩ := w
  have hps : ps = [] := List.isEmpty_iff.1 hp
  rw [hps, Entity.ofWire, Value.propertiesOfWire, Settings.ofProperties]

namespace ResultKind

variable {s t : ResultKind} {w : Wire.Entity} {r : ResultValue}

/-! ## Declared kinds -/

/-- A kind other than the unknown one makes a result of every entity. -/
theorem convert_ne_none (ht : t ≠ .unknown) (w : Wire.Entity) : t.convert w ≠ none := by
  cases t with
  | unknown => exact absurd rfl ht
  | _ => exact Option.some_ne_none _

theorem accepts_kind (h : t.convert w = some r) : t.accepts r.kind = true := by
  by_cases ht : t = .unknown
  · rw [ht]
    rfl
  · rw [kind_of_convert ht h]
    simp [accepts]

/-! ## The kind that shows -/

/-- The kind that an entity shows: projected if it has properties, and otherwise a key if it has
one. -/
def shown? (w : Wire.Entity) : Option ResultKind :=
  if w.properties.isEmpty then w.key.map fun _ => .key else some .projection

theorem shown?_eq_none_iff : shown? w = none ↔ w.key = none ∧ w.properties.isEmpty = true := by
  unfold shown?
  cases w.properties.isEmpty <;> simp

theorem shown?_cases (h : shown? w = some s) :
    (∃ k, w.key = some k ∧ w.properties.isEmpty = true ∧ s = .key) ∨
      w.properties.isEmpty = false ∧ s = .projection := by
  unfold shown? at h
  cases hp : w.properties.isEmpty with
  | true =>
    rw [if_pos hp, Option.map_eq_some_iff] at h
    obtain ⟨k, hk, rfl⟩ := h
    exact .inl ⟨k, hk, rfl, rfl⟩
  | false =>
    rw [if_neg (by simp [hp])] at h
    exact .inr ⟨rfl, (Option.some.inj h).symm⟩

theorem shown?_ne_unknown (h : shown? w = some s) : s ≠ .unknown := by
  rcases shown?_cases h with ⟨-, -, -, rfl⟩ | ⟨-, rfl⟩ <;> decide

theorem convert_unknown (w : Wire.Entity) :
    convert .unknown w = (shown? w).bind fun s => s.convert w := by
  rw [convert, shown?]
  split
  · cases hk : w.key with
    | none => rfl
    | some k => simp [convert, hk]
  · rfl

theorem convert_eq_none_iff (t : ResultKind) (w : Wire.Entity) :
    t.convert w = none ↔ t = .unknown ∧ w.key = none ∧ w.properties.isEmpty = true := by
  by_cases ht : t = .unknown
  · subst ht
    rw [convert_unknown, ← shown?_eq_none_iff]
    cases hs : shown? w with
    | none => simp
    | some s => simp [convert_ne_none (shown?_ne_unknown hs) w]
  · simp [ht, convert_ne_none ht w]

/-- What an entity is found to be is of the kind that it shows. -/
theorem shown?_of_convert (h : convert .unknown w = some r) : shown? w = some r.kind := by
  rw [convert_unknown, Option.bind_eq_some_iff] at h
  obtain ⟨s, hs, hr⟩ := h
  rw [hs, kind_of_convert (shown?_ne_unknown hs) hr]

theorem convert_kind (h : t.convert w = some r) : r.kind.convert w = some r := by
  by_cases ht : t = .unknown
  · subst ht
    have hs : shown? w = some r.kind := shown?_of_convert h
    rwa [convert_unknown, hs] at h
  · rwa [kind_of_convert ht h]

/-- What an entity is found to be says the same as the entity. -/
theorem content_of_convert (h : convert .unknown w = some r) : r.content = Entity.ofWire w := by
  have hr : r.kind.convert w = some r := convert_kind h
  rcases shown?_cases (shown?_of_convert h) with ⟨k, hk, hp, hkind⟩ | ⟨-, hkind⟩
  · rw [hkind, convert, hk] at hr
    rw [Entity.ofWire_of_isEmpty hp, hk, ← Option.some.inj hr]
    rfl
  · rw [hkind, convert] at hr
    rw [← Option.some.inj hr]
    rfl

theorem kind_of_convert_unknown (h : convert .unknown w = some r) :
    r.kind = if w.properties.isEmpty then .key else .projection := by
  rcases shown?_cases (shown?_of_convert h) with ⟨-, -, hp, hkind⟩ | ⟨hp, hkind⟩
  · rw [hkind, hp]
    rfl
  · rw [hkind, hp]
    rfl

/-- **What an entity is found to be is what it would be if it were declared.** Nothing comes of an
entity only where its kind is unknown and it has neither a key nor properties. What comes of it is of
a known kind, which can stand wherever that of the entity was wanted and which makes the same result
of it. Where the kind was unknown nothing is lost: an entity without properties becomes its key, and
any other a projected entity with everything that it has. -/
theorem convert_found_as_declared (t : ResultKind) (w : Wire.Entity) :
    (t.convert w = none ↔ t = .unknown ∧ w.key = none ∧ w.properties.isEmpty = true) ∧
    ∀ r, t.convert w = some r →
      t.accepts r.kind = true ∧ r.kind ≠ .unknown ∧ r.kind.convert w = some r ∧
      (t = .unknown → r.content = Entity.ofWire w ∧
        r.kind = if w.properties.isEmpty then .key else .projection) := by
  refine ⟨convert_eq_none_iff t w, fun r h => ⟨accepts_kind h, r.kind_ne_unknown, convert_kind h, ?_⟩⟩
  rintro rfl
  exact ⟨content_of_convert h, kind_of_convert_unknown h⟩

/-- A task with its key, with a property that has settings and with an embedded entity that has none:
it is a projected entity, and would be the same one if it were declared to be. -/
theorem convert_found_as_declared_task :
    let w : Wire.Entity :=
      { key := some { path := [{ kind := "Task" }] }
        properties := ⟨[("done", { booleanValue := some true, excludeFromIndexes := some true }),
          ("owner", { entityValue := some {} })]⟩ }
    ∃ r, convert .unknown w = some r ∧ r.kind = .projection ∧ convert .projection w = some r ∧
      accepts .unknown r.kind = true ∧ r.content = Entity.ofWire w := by
  intro w
  have hr : convert .unknown w = some (.projection (ProjectionEntity.ofWire w)) := rfl
  obtain ⟨-, h⟩ := convert_found_as_declared .unknown w
  obtain ⟨ha, -, hk, hc⟩ := h _ hr
  obtain ⟨hcontent, hkind⟩ := hc rfl
  exact ⟨_, hr, hkind, hk, ha, hcontent⟩

end ResultKind

end CloudData
