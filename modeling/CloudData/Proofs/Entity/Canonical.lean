/-
Which messages of entities come back unchanged when they are turned into entities
and back: the canonical ones, in which nothing is said twice and no field that may
be absent is present but empty.

`Wire.Entity.Canonical`: canonical at every depth. `Value.apply_toWire_ofWire`: a
value and its settings, which are read apart, are one message again.
`Entity.canonical_toWire`: the message of every entity is canonical.
`Entity.toWire_ofWire_iff`: the canonical ones are those that come back.
-/
import CloudData.Proofs.Entity.Conversion
import CloudData.Proofs.Entity.Induction
import CloudData.Proofs.Wire.Throughout

namespace CloudData

/-! ## Canonical messages -/

namespace Wire

/-- The database and the namespace are absent rather than empty. -/
structure PartitionId.Canonical (p : PartitionId) : Prop where
  database : p.databaseId ≠ some ""
  space : p.namespaceId ≠ some ""

/-- Not both an id and a name. -/
def PathElement.Canonical (e : PathElement) : Prop := e.id = none ∨ e.name = none

/-- There is a partition, and nothing is said twice or emptily. -/
structure Key.Canonical (k : Key) : Prop where
  partition : ∃ p, k.partitionId = some p ∧ p.Canonical
  path : ∀ e ∈ k.path, e.Canonical

/-- How many of the eight fields of content are set. -/
def Value.contentCount (v : Value) : Nat :=
  [v.booleanValue.isSome, v.integerValue.isSome, v.doubleValue.isSome, v.keyValue.isSome,
    v.stringValue.isSome, v.blobValue.isSome, v.entityValue.isSome, v.arrayValue.isSome].count true

/-- At most one field of content is set, and a key is canonical. -/
structure Value.PlainNode (v : Value) : Prop where
  content : v.contentCount ≤ 1
  key : ∀ k ∈ v.keyValue, k.Canonical

/-- The key, if there is one, is canonical. -/
def Entity.PlainNode (e : Entity) : Prop := ∀ k ∈ e.key, k.Canonical

/-- Canonical at every depth. -/
def Value.Canonical (v : Value) : Prop := v.Throughout Value.PlainNode Entity.PlainNode

/-- Canonical at every depth. -/
def Entity.Canonical (e : Entity) : Prop := e.Throughout Value.PlainNode Entity.PlainNode

/-- A value with one field of content, or none. -/
inductive Value.Single : Value → Prop
  | null m o : Single { meaning := m, excludeFromIndexes := o }
  | boolean b m o : Single { booleanValue := some b, meaning := m, excludeFromIndexes := o }
  | integer n m o : Single { integerValue := some n, meaning := m, excludeFromIndexes := o }
  | double d m o : Single { doubleValue := some d, meaning := m, excludeFromIndexes := o }
  | key k m o : Single { keyValue := some k, meaning := m, excludeFromIndexes := o }
  | string s m o : Single { stringValue := some s, meaning := m, excludeFromIndexes := o }
  | blob bs m o : Single { blobValue := some bs, meaning := m, excludeFromIndexes := o }
  | entity e m o : Single { entityValue := some e, meaning := m, excludeFromIndexes := o }
  | array vs m o : Single { arrayValue := some vs, meaning := m, excludeFromIndexes := o }

theorem Value.single_of_contentCount {v : Value} (h : v.contentCount ≤ 1) : v.Single := by
  obtain ⟨b, i, d, k, s, x, e, a, m, o⟩ := v
  unfold contentCount at h
  -- the first field that is set leaves no room for those after it
  rcases b with _ | b
  case some => simp_all [List.count_eq_zero]; exact .boolean b m o
  rcases i with _ | i
  case some => simp_all [List.count_eq_zero]; exact .integer i m o
  rcases d with _ | d
  case some => simp_all [List.count_eq_zero]; exact .double d m o
  rcases k with _ | k
  case some => simp_all [List.count_eq_zero]; exact .key k m o
  rcases s with _ | s
  case some => simp_all [List.count_eq_zero]; exact .string s m o
  rcases x with _ | x
  case some => simp_all [List.count_eq_zero]; exact .blob x m o
  rcases e with _ | e
  case some => simp_all [List.count_eq_zero]; exact .entity e m o
  rcases a with _ | a
  case some => exact .array a m o
  exact .null m o

/-- The names of every map, at every depth, ascend. -/
def Value.Ordered (v : Value) : Prop := v.Throughout (fun _ => True) fun e => e.properties.Ascending

/-- The names of every map, at every depth, ascend. -/
def Entity.Ordered (e : Entity) : Prop := e.Throughout (fun _ => True) fun e => e.properties.Ascending

end Wire

/-! ## Keys -/

theorem PathElement.toWire_ofWire {e : Wire.PathElement} (h : e.Canonical) :
    (PathElement.ofWire e).toWire = e := by
  obtain ⟨kind, id, name⟩ := e
  cases id <;> cases name <;>
    simp_all [Wire.PathElement.Canonical, ofWire, toWire, id?, name?]

theorem PathElement.canonical_toWire (e : PathElement) : e.toWire.Canonical := by
  obtain ⟨kind, _ | _ | _⟩ := e <;> simp [Wire.PathElement.Canonical, toWire, id?, name?]

theorem Key.unlessEmpty_getD {s : Option String} (h : s ≠ some "") :
    Key.unlessEmpty (s.getD "") = s := by
  cases s with
  | none => rfl
  | some s =>
    have hs : s ≠ "" := fun he => h (he ▸ rfl)
    simp [Key.unlessEmpty, hs]

theorem Key.unlessEmpty_ne (s : String) : Key.unlessEmpty s ≠ some "" := by
  unfold Key.unlessEmpty
  split
  · simp
  · rename_i h
    intro he
    exact h (by rw [Option.some.inj he]; rfl)

theorem Key.toWire_ofWire {k : Wire.Key} (h : k.Canonical) : (Key.ofWire k).toWire = k := by
  obtain ⟨partition, path⟩ := k
  obtain ⟨p, rfl, hp⟩ := h.partition
  have he : path.map (PathElement.toWire ∘ PathElement.ofWire) = path :=
    (List.map_congr_left fun e he => PathElement.toWire_ofWire (h.path e he)).trans (List.map_id _)
  simp [Key.ofWire, Key.toWire, Key.partition, Key.unlessEmpty_getD hp.database,
    Key.unlessEmpty_getD hp.space, he]

theorem Key.canonical_toWire (k : Key) : k.toWire.Canonical where
  partition := ⟨k.partition, rfl, Key.unlessEmpty_ne _, Key.unlessEmpty_ne _⟩
  path e he := by
    obtain ⟨f, _, rfl⟩ := List.mem_map.1 he
    exact f.canonical_toWire

/-! ## Values and entities -/

/-- Settings that are all empty have no effect, so it does not matter whether they are kept. -/
theorem Settings.applyAll_collapse (ss : List Settings) (vs : List Value) :
    Settings.applyAll (Settings.collapse ss) (vs.map Value.toWire) =
      Settings.applyAll ss (vs.map Value.toWire) := by
  unfold Settings.collapse
  split
  · rename_i h
    rw [Settings.applyAll_nil]
    induction ss generalizing vs with
    | nil => rw [Settings.applyAll_nil]
    | cons s ss ih =>
      cases vs with
      | nil => rfl
      | cons v vs =>
        rw [List.all_cons, Bool.and_eq_true, Settings.isEmpty_iff] at h
        rw [List.map_cons, Settings.applyAll, h.1, Settings.apply_empty, ← ih vs h.2]
  · rfl

/-- What was read from each value, written back into it. -/
theorem Settings.applyAll_ofWire {vs : List Wire.Value}
    (h : ∀ w ∈ vs, (Settings.ofWire w).apply (Value.ofWire w).toWire = w) :
    Settings.applyAll (vs.map Settings.ofWire) ((vs.map Value.ofWire).map Value.toWire) = vs := by
  induction vs with
  | nil => rfl
  | cons v vs ih =>
    rw [List.forall_mem_cons] at h
    rw [List.map_cons, List.map_cons, List.map_cons, Settings.applyAll, ih h.2, h.1]

/-- A value with at most one kind of content is put together again from its value and its settings,
if what is inside it is. -/
theorem Value.apply_toWire_ofWire {v : Wire.Value} (hv : v.PlainNode)
    (he : ∀ e ∈ v.entityValue, (Entity.ofWire e).toWire = e)
    (ha : ∀ vs ∈ v.arrayValue, ∀ w ∈ vs, (Settings.ofWire w).apply (Value.ofWire w).toWire = w) :
    (Settings.ofWire v).apply (Value.ofWire v).toWire = v := by
  cases Wire.Value.single_of_contentCount hv.content with
  | key k m o =>
    have hk := Key.toWire_ofWire (hv.key k rfl)
    simp [Value.ofWire, Value.toWire, Settings.ofWire, Settings.apply, hk]
  | entity e m o =>
    have he := he e rfl
    simp [Value.ofWire, Value.toWire, Settings.ofWire, Settings.apply, he]
  | array vs m o =>
    have ha := (Settings.applyAll_collapse _ _).trans (Settings.applyAll_ofWire (ha vs rfl))
    simp [Value.ofWire, Value.toWire, Settings.ofWire, Settings.apply, Value.allOfWire_eq_map,
      Value.allToWire_eq_map, Settings.allOfWire_eq_map, ha, -List.map_map]
  | _ => simp [Value.ofWire, Value.toWire, Settings.ofWire, Settings.apply]

theorem Entity.map_key_toWire_ofWire {e : Wire.Entity} (h : e.PlainNode) :
    (e.key.map Key.ofWire).map Key.toWire = e.key := by
  cases hk : e.key with
  | none => rfl
  | some k => rw [Option.map_some, Option.map_some, Key.toWire_ofWire (h k hk)]

/-- The settings of a property reach its value. Where they are empty they are not kept, and then the
value has none. -/
theorem Settings.applyNamed_ofProperties {ps : List (String × Wire.Value)} {p : String × Wire.Value}
    (hl : ps.lookup p.1 = some p.2) :
    Settings.applyNamed (Settings.ofProperties ps) p.1 (Value.ofWire p.2).toWire =
      (Settings.ofWire p.2).apply (Value.ofWire p.2).toWire := by
  rw [Settings.applyNamed, Settings.find?_ofProperties, hl, Option.bind_some]
  split
  · rename_i s hs
    split at hs
    · cases hs
    · rw [← Option.some.inj hs]
  · rename_i hs
    split at hs
    · rename_i h
      rw [(Settings.isEmpty_iff _).1 h, Settings.apply_empty]
    · cases hs

/-- An entity whose names ascend is put together again, if its values are. -/
theorem Entity.toWire_ofWire_of_values {e : Wire.Entity} (ho : e.properties.Ascending)
    (hk : e.PlainNode)
    (hp : ∀ p ∈ e.properties.entries, (Settings.ofWire p.2).apply (Value.ofWire p.2).toWire = p.2) :
    (Entity.ofWire e).toWire = e := by
  obtain ⟨k, ⟨ps⟩⟩ := e
  have hps : (ps.map fun p => (p.1, Settings.applyNamed (Settings.ofProperties ps) p.1
      (Value.ofWire p.2).toWire)) = ps := by
    refine (List.map_congr_left fun p h => ?_).trans (List.map_id _)
    rw [Settings.applyNamed_ofProperties (NameMap.lookup_of_mem ho h), hp p h]
    rfl
  rw [Entity.toWire_eq, Entity.ofWire_eq]
  simp only [entries_propertiesOfWire ho, List.map_map, Function.comp_def, hps,
    Entity.map_key_toWire_ofWire hk]

theorem roundTrip_compositional :
    Wire.Compositional
      (fun v => v.Ordered → v.Canonical → (Settings.ofWire v).apply (Value.ofWire v).toWire = v)
      (fun e => e.Ordered → e.Canonical → (Entity.ofWire e).toWire = e) where
  value v he ha ho hc := by
    obtain ⟨-, ho, ho'⟩ := (Wire.Value.throughout_iff v).1 ho
    obtain ⟨hv, hc, hc'⟩ := (Wire.Value.throughout_iff v).1 hc
    exact Value.apply_toWire_ofWire hv (fun e h => he e h (ho e h) (hc e h))
      fun vs h w hw => ha vs h w hw (ho' vs h w hw) (hc' vs h w hw)
  entity e hp ho hc := by
    obtain ⟨ha, ho⟩ := (Wire.Entity.throughout_iff e).1 ho
    obtain ⟨hk, hc⟩ := (Wire.Entity.throughout_iff e).1 hc
    exact Entity.toWire_ofWire_of_values ha hk fun p h => hp p h (ho p h) (hc p h)

/-! ## Messages of entities -/

section
variable {p : Wire.Value → Prop} {q : Wire.Entity → Prop}

mutual

/-- What settings leave alone in one value, they leave alone at every depth. -/
theorem Settings.throughout_apply (hp : ∀ v s, p v → p (Settings.apply s v)) :
    ∀ (s : Settings) (v : Wire.Value), v.Throughout p q → (s.apply v).Throughout p q
  | ⟨x, m, es⟩, v, h => by
    obtain ⟨hv, he, ha⟩ := (Wire.Value.throughout_iff v).1 h
    refine (Wire.Value.throughout_iff _).2 ⟨hp v _ hv, he, fun vs hvs => ?_⟩
    rw [Settings.arrayValue_apply, Option.mem_def, Option.map_eq_some_iff] at hvs
    obtain ⟨ws, hws, rfl⟩ := hvs
    exact Settings.throughout_applyAll hp es ws (ha ws hws)

theorem Settings.throughout_applyAll (hp : ∀ v s, p v → p (Settings.apply s v)) :
    ∀ (ss : List Settings) (vs : List Wire.Value),
      (∀ w ∈ vs, w.Throughout p q) → ∀ w ∈ Settings.applyAll ss vs, w.Throughout p q
  | [], vs, h => by rwa [Settings.applyAll_nil]
  | _ :: _, [], h => h
  | s :: ss, v :: vs, h => by
    rw [List.forall_mem_cons] at h
    rw [Settings.applyAll, List.forall_mem_cons]
    exact ⟨Settings.throughout_apply hp s v h.1, Settings.throughout_applyAll hp ss vs h.2⟩

end

theorem Settings.throughout_applyNamed (hp : ∀ v s, p v → p (Settings.apply s v))
    {ss : NameMap Settings} {n : String} {v : Wire.Value} (h : v.Throughout p q) :
    (Settings.applyNamed ss n v).Throughout p q := by
  unfold Settings.applyNamed
  split
  · exact Settings.throughout_apply hp _ v h
  · exact h

end

theorem Wire.Value.PlainNode.apply {v : Wire.Value} (h : v.PlainNode) (s : Settings) :
    (s.apply v).PlainNode := by
  obtain ⟨x, m, es⟩ := s
  obtain ⟨b, i, d, k, t, y, e, a, m', o⟩ := v
  refine ⟨?_, h.key⟩
  cases a <;> exact h.content

theorem Value.plainNode_toWire (v : Value) : v.toWire.PlainNode where
  content := by cases v <;> simp [Value.toWire, Wire.Value.contentCount]
  key k hk := by
    cases v <;> simp [Value.toWire] at hk
    rw [← hk]
    exact Key.canonical_toWire _

theorem canonical_compositional :
    Compositional (fun v => v.toWire.Canonical) (fun e => e.toWire.Canonical) where
  value v he ha := by
    refine (Wire.Value.throughout_iff _).2 ⟨v.plainNode_toWire, fun e h => ?_, fun vs h => ?_⟩
    · cases v <;> simp [Value.toWire] at h
      exact h ▸ he _ rfl
    · cases v <;> simp [Value.toWire, Value.allToWire_eq_map] at h
      exact h ▸ List.forall_mem_map.2 (ha _ rfl)
  entity e hp := by
    rw [Entity.toWire_eq]
    refine (Wire.Entity.throughout_iff _).2 ⟨fun k hk => ?_, fun p h => ?_⟩
    · obtain ⟨l, -, rfl⟩ := Option.map_eq_some_iff.1 hk
      exact l.canonical_toWire
    · obtain ⟨x, hx, rfl⟩ := List.mem_map.1 h
      exact Settings.throughout_applyNamed (fun _ s h => h.apply s) (hp x hx)

/-- The message of any entity is canonical. -/
theorem Entity.canonical_toWire (e : Entity) : e.toWire.Canonical :=
  canonical_compositional.forall_entity e

theorem ordered_compositional :
    Wire.Compositional (fun v => (Value.ofWire v).toWire.Ordered)
      (fun e => (Entity.ofWire e).toWire.Ordered) where
  value v he ha := by
    refine (Wire.Value.throughout_iff _).2 ⟨trivial, fun e h => ?_, fun vs h => ?_⟩
    · unfold Value.ofWire at h
      split at h <;> simp [Value.toWire] at h
      exact h ▸ he _ rfl
    · unfold Value.ofWire at h
      split at h <;> simp [Value.toWire, Value.allOfWire_eq_map, Value.allToWire_eq_map] at h
      exact h ▸ List.forall_mem_map.2 (ha _ rfl)
  entity e hp := by
    rw [Entity.toWire_eq, Entity.ofWire_eq]
    refine (Wire.Entity.throughout_iff _).2 ⟨?_, fun p h => ?_⟩
    · have := ascending_propertiesOfWire e.properties.entries
      simpa [NameMap.Ascending, NameMap.names, Function.comp_def] using this
    · obtain ⟨x, hx, rfl⟩ := List.mem_map.1 h
      obtain ⟨y, hy, rfl⟩ := mem_propertiesOfWire hx
      exact Settings.throughout_applyNamed (fun _ _ h => h) (hp y hy)

/-- The names of every map ascend in a message that was read and is written again. -/
theorem Entity.ordered_toWire_ofWire (w : Wire.Entity) : (Entity.ofWire w).toWire.Ordered :=
  ordered_compositional.forall_entity w

theorem Entity.toWire_ofWire_iff (w : Wire.Entity) :
    (Entity.ofWire w).toWire = w ↔ w.Ordered ∧ w.Canonical := by
  constructor
  · intro h
    rw [← h]
    exact ⟨Entity.ordered_toWire_ofWire w, Entity.canonical_toWire _⟩
  · rintro ⟨ho, hc⟩
    exact roundTrip_compositional.forall_entity w ho hc

/-- **A message comes back unchanged exactly if it is canonical**, whether it is taken for an entity
or for a projected one; and whatever comes back is canonical. Of the two conditions `Ordered` says
only that the message's maps are written the way maps are. -/
theorem roundTrip_iff_canonical (w : Wire.Entity) :
    ((Entity.ofWire w).toWire = w ↔ w.Ordered ∧ w.Canonical) ∧
    ((ProjectionEntity.ofWire w).toWire = w ↔ w.Ordered ∧ w.Canonical) ∧
    (Entity.ofWire w).toWire.Canonical ∧ (ProjectionEntity.ofWire w).toWire.Canonical :=
  ⟨Entity.toWire_ofWire_iff w, Entity.toWire_ofWire_iff w, Entity.canonical_toWire _,
    Entity.canonical_toWire _⟩

end CloudData
