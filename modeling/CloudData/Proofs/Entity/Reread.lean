/-
Entities that are read from messages, written and read again: they come back unless
something is said about the elements of an array that is not what is read.

The value of a message is the first content that is set, an array comes last, and
the settings of its elements are read all the same. `Value.ofWire_eq_array_iff`,
`Value.ofWire_eq_entity_iff`: which values are read as arrays and as entities.
`Settings.fits_ofWire_iff`: when the settings that are read fit the value.
`Entity.wellShaped_ofWire_iff`: when they do throughout an entity.
-/
import CloudData.Proofs.Entity.Canonical
import CloudData.Proofs.Entity.Update
import CloudData.Proofs.Wire.Entity

namespace CloudData

/-! ## What a value is read as -/

namespace Wire

/-- The elements of a value that is read as an array: no other content is set. -/
def Value.elements? : Value → Option (List Value)
  | ⟨none, none, none, none, none, none, none, vs, _, _⟩ => vs
  | _ => none

/-- The entity of a value that is read as one: no content that comes before it is set. -/
def Value.embedded? : Value → Option Entity
  | ⟨none, none, none, none, none, none, e, _, _, _⟩ => e
  | _ => none

mutual

/-- Nothing is said about the elements of an array that stands beside other content, neither of the
value nor of anything inside it that is read. -/
inductive Value.Clear : Value → Prop
  | intro {v : Value}
      (hidden : v.elements? = none → ∀ vs, v.arrayValue = some vs → ∀ w ∈ vs, w.Indexed {})
      (elements : ∀ vs, v.elements? = some vs → ∀ w ∈ vs, Value.Clear w)
      (embedded : ∀ e, v.embedded? = some e → Entity.Clear e) : Value.Clear v

/-- The same of all properties. -/
inductive Entity.Clear : Entity → Prop
  | intro {e : Entity} (properties : ∀ n v, e.properties.find? n = some v → Value.Clear v) :
      Entity.Clear e

end

theorem Value.clear_iff (v : Value) :
    v.Clear ↔
      (v.elements? = none → ∀ vs, v.arrayValue = some vs → ∀ w ∈ vs, w.Indexed {}) ∧
      (∀ vs, v.elements? = some vs → ∀ w ∈ vs, w.Clear) ∧
      ∀ e, v.embedded? = some e → e.Clear :=
  ⟨fun ⟨h₁, h₂, h₃⟩ => ⟨h₁, h₂, h₃⟩, fun ⟨h₁, h₂, h₃⟩ => ⟨h₁, h₂, h₃⟩⟩

theorem Entity.clear_iff (e : Entity) :
    e.Clear ↔ ∀ n v, e.properties.find? n = some v → v.Clear :=
  ⟨fun ⟨h⟩ => h, fun h => ⟨h⟩⟩

theorem Value.arrayValue_of_elements? {v : Value} {vs : List Value} (h : v.elements? = some vs) :
    v.arrayValue = some vs := by
  unfold elements? at h
  split at h
  · exact h
  · cases h

theorem Value.entityValue_of_embedded? {v : Value} {e : Entity} (h : v.embedded? = some e) :
    v.entityValue = some e := by
  unfold embedded? at h
  split at h
  · exact h
  · cases h

theorem Value.indexed_empty_iff (v : Value) :
    v.Indexed {} ↔ v.excludeFromIndexes = none ∧ v.meaning = none ∧
      ∀ vs, v.arrayValue = some vs → ∀ w ∈ vs, w.Indexed {} := by
  constructor
  · rintro ⟨hx, hm, he⟩
    refine ⟨hx, hm, fun vs hvs w hw => ?_⟩
    obtain ⟨i, hi⟩ := List.mem_iff_getElem?.1 hw
    exact he vs hvs i w hi
  · rintro ⟨hx, hm, he⟩
    exact ⟨hx, hm, fun vs hvs i w hi => he vs hvs w (List.mem_of_getElem? hi)⟩

end Wire

theorem Value.ofWire_eq_array_iff (v : Wire.Value) (us : List Value) :
    Value.ofWire v = .array us ↔ ∃ vs, v.elements? = some vs ∧ us = vs.map Value.ofWire := by
  unfold Value.ofWire Wire.Value.elements?
  split <;> simp [Value.allOfWire_eq_map, eq_comm]

theorem Value.ofWire_eq_entity_iff (v : Wire.Value) (e : Entity) :
    Value.ofWire v = .entity e ↔ ∃ w, v.embedded? = some w ∧ e = Entity.ofWire w := by
  unfold Value.ofWire Wire.Value.embedded?
  split <;> simp [eq_comm]

theorem Value.throughout_ofWire_iff (q : Entity → Prop) (v : Wire.Value) :
    (Value.ofWire v).Throughout q ↔
      (∀ e, v.embedded? = some e → (Entity.ofWire e).Throughout q) ∧
      ∀ vs, v.elements? = some vs → ∀ w ∈ vs, (Value.ofWire w).Throughout q := by
  rw [Value.throughout_iff]
  refine and_congr ⟨fun h e he => ?_, fun h e he => ?_⟩ ⟨fun h vs hvs w hw => ?_, fun h us hus => ?_⟩
  · exact h _ ((Value.ofWire_eq_entity_iff v _).2 ⟨e, he, rfl⟩)
  · obtain ⟨w, hw, rfl⟩ := (Value.ofWire_eq_entity_iff v e).1 he
    exact h w hw
  · exact h _ ((Value.ofWire_eq_array_iff v _).2 ⟨vs, hvs, rfl⟩) _ (List.mem_map_of_mem hw)
  · obtain ⟨vs, hvs, rfl⟩ := (Value.ofWire_eq_array_iff v us).1 hus
    exact List.forall_mem_map.2 (h vs hvs)

/-! ## When the settings that are read fit the value -/

namespace Settings

theorem collapse_eq_nil_iff (es : List Settings) : collapse es = [] ↔ ∀ t ∈ es, t = {} := by
  rw [collapse_eq]
  by_cases h : ∀ t ∈ es, t = {}
  · simpa [if_pos h] using h
  · rw [if_neg h]
    refine ⟨fun he => ?_, fun hn => absurd hn h⟩
    simp [he]

theorem elements_ofWire {v : Wire.Value} {vs : List Wire.Value} (h : v.arrayValue = some vs) :
    (ofWire v).elements = collapse (vs.map ofWire) := by
  obtain ⟨b, i, d, k, s, x, e, a, m, o⟩ := v
  cases h
  rw [ofWire, allOfWire_eq_map]

theorem elements_ofWire_eq_nil_iff (v : Wire.Value) :
    (ofWire v).elements = [] ↔ ∀ vs, v.arrayValue = some vs → ∀ w ∈ vs, ofWire w = {} := by
  obtain ⟨b, i, d, k, s, x, e, a, m, o⟩ := v
  cases a with
  | none => simp [ofWire]
  | some vs => simp [ofWire, allOfWire_eq_map, collapse_eq_nil_iff]

/-- Settings are empty where nothing is said, neither of the value nor of its elements. -/
theorem ofWire_eq_empty_iff (v : Wire.Value) : ofWire v = {} ↔ v.Indexed {} := by
  have hc : Wire.Compositional (fun v => ofWire v = {} ↔ v.Indexed {}) fun _ => True := by
    refine ⟨fun v _ ha => ?_, fun _ _ => trivial⟩
    have hv : ofWire v = {} ↔
        v.excludeFromIndexes = none ∧ v.meaning = none ∧ (ofWire v).elements = [] := by
      obtain ⟨b, i, d, k, s, x, e, a, m, o⟩ := v
      cases a <;> simp [ofWire]
    rw [hv, v.indexed_empty_iff, elements_ofWire_eq_nil_iff]
    refine and_congr_right fun _ => and_congr_right fun _ => ?_
    exact forall_congr' fun vs => forall_congr' fun hvs => forall₂_congr (ha vs hvs)
  exact hc.forall_value v

theorem fits_iff_of_ne_array {s : Settings} {v : Value} (h : ∀ vs, v ≠ .array vs) :
    s.Fits v ↔ s.elements = [] := by
  constructor
  · intro hf
    cases hf with
    | plain he => exact he
    | @elements _ vs => exact absurd rfl (h vs)
  · exact .plain

theorem fits_ofWire_of_elements? {v : Wire.Value} {vs : List Wire.Value} (h : v.elements? = some vs) :
    (ofWire v).Fits (Value.ofWire v) ↔ ∀ w ∈ vs, (ofWire w).Fits (Value.ofWire w) := by
  have ha : v.arrayValue = some vs := Wire.Value.arrayValue_of_elements? h
  rw [(Value.ofWire_eq_array_iff v _).2 ⟨vs, h, rfl⟩]
  by_cases he : ∀ w ∈ vs, ofWire w = {}
  · -- no element settings are kept, and none are needed
    have hn : (ofWire v).elements = [] :=
      (elements_ofWire_eq_nil_iff v).2 fun us hus => by cases ha.symm.trans hus; exact he
    refine ⟨fun _ w hw => ?_, fun _ => .plain hn⟩
    rw [he w hw]
    exact .plain rfl
  · have hn : ∃ t ∈ vs.map ofWire, t ≠ {} := by
      obtain ⟨w, hw, hne⟩ : ∃ w ∈ vs, ofWire w ≠ {} := by simpa using he
      exact ⟨ofWire w, List.mem_map_of_mem hw, hne⟩
    have hes : (ofWire v).elements = vs.map ofWire := by
      rw [elements_ofWire ha, collapse_eq, if_neg (by simpa using he)]
    have hz : (vs.map ofWire).zip (vs.map Value.ofWire) =
        vs.map fun w => (ofWire w, Value.ofWire w) := List.zip_map' ..
    constructor
    · intro hf
      cases hf with
      | plain hp =>
        obtain ⟨t, ht, -⟩ := hn
        rw [← hes, hp] at ht
        cases ht
      | elements hl hf hn =>
        rw [hes, hz] at hf
        exact List.forall_mem_map.1 hf
    · intro hf
      refine .elements ?_ ?_ ?_
      · rw [hes, List.length_map, List.length_map]
      · rw [hes, hz]
        exact List.forall_mem_map.2 hf
      · rw [hes]
        exact hn

/-- The settings that are read fit the value that is read unless an array with settings stands beside
what is read, here or at some element. -/
theorem fits_ofWire_iff (v : Wire.Value) :
    (ofWire v).Fits (Value.ofWire v) ↔
      (v.elements? = none → ∀ vs, v.arrayValue = some vs → ∀ w ∈ vs, w.Indexed {}) ∧
      ∀ vs, v.elements? = some vs → ∀ w ∈ vs, (ofWire w).Fits (Value.ofWire w) := by
  cases he : v.elements? with
  | some vs => simp [fits_ofWire_of_elements? he]
  | none =>
    have hna : ∀ us, Value.ofWire v ≠ .array us := by
      intro us hus
      obtain ⟨vs, hvs, -⟩ := (Value.ofWire_eq_array_iff v us).1 hus
      rw [he] at hvs
      cases hvs
    simp [fits_iff_of_ne_array hna, elements_ofWire_eq_nil_iff, ofWire_eq_empty_iff]

end Settings

/-! ## Entities that are read, written and read again -/

theorem Entity.settingsFit_ofWire_iff (w : Wire.Entity) :
    (Entity.ofWire w).SettingsFit ↔
      ∀ n v, w.properties.find? n = some v → (Settings.ofWire v).Fits (Value.ofWire v) := by
  constructor
  · intro h n v hv
    by_cases hs : Settings.ofWire v = {}
    · -- such settings are not kept, but fit any value
      rw [hs]
      exact .plain rfl
    · have hn : (Entity.ofWire w).settings? n = some (Settings.ofWire v) := by
        rw [Entity.settings?_ofWire, hv, Option.map_some, Option.filter_some, if_pos (by simpa using hs)]
      obtain ⟨-, u, hu, hf⟩ := h _ (NameMap.mem_of_find? hn)
      rw [Entity.get?_ofWire, hv] at hu
      cases hu
      exact hf
  · intro h p hp
    have hs : (Entity.ofWire w).settings? p.1 = some p.2 :=
      NameMap.lookup_of_mem (Entity.mapsAscend_ofWire w).settings hp
    rw [Entity.settings?_ofWire, Option.filter_eq_some_iff, Option.map_eq_some_iff] at hs
    obtain ⟨⟨v, hv, hs⟩, hne⟩ := hs
    refine ⟨by simpa using hne, Value.ofWire v, ?_, ?_⟩
    · rw [Entity.get?_ofWire, hv, Option.map_some]
    · rw [← hs]
      exact h p.1 v hv

theorem Entity.forall_properties_ofWire_iff (q : Value → Prop) (w : Wire.Entity) :
    (∀ p ∈ (Entity.ofWire w).properties.entries, q p.2) ↔
      ∀ n v, w.properties.find? n = some v → q (Value.ofWire v) := by
  constructor
  · intro h n v hv
    have hn : (Entity.ofWire w).get? n = some (Value.ofWire v) := by
      rw [Entity.get?_ofWire, hv, Option.map_some]
    exact h _ (NameMap.mem_of_find? hn)
  · intro h p hp
    have hv : (Entity.ofWire w).get? p.1 = some p.2 :=
      NameMap.lookup_of_mem (Entity.mapsAscend_ofWire w).properties hp
    rw [Entity.get?_ofWire, Option.map_eq_some_iff] at hv
    obtain ⟨v, hv, hp⟩ := hv
    rw [← hp]
    exact h p.1 v hv

/-- What is read from a message is well-shaped exactly if the message is clear. -/
theorem Entity.wellShaped_ofWire_iff (w : Wire.Entity) : (Entity.ofWire w).WellShaped ↔ w.Clear := by
  have hc : Wire.Compositional
      (fun v => (Settings.ofWire v).Fits (Value.ofWire v) ∧
        (Value.ofWire v).Throughout Entity.SettingsFit ↔ v.Clear)
      (fun e => (Entity.ofWire e).WellShaped ↔ e.Clear) := by
    refine ⟨fun v he ha => ?_, fun e hp => ?_⟩
    · -- only what is read counts, so the parts that are hidden need no hypothesis
      rw [Settings.fits_ofWire_iff, Value.throughout_ofWire_iff, Wire.Value.clear_iff]
      have he : ∀ e, v.embedded? = some e → ((Entity.ofWire e).WellShaped ↔ e.Clear) :=
        fun e h => he e (Wire.Value.entityValue_of_embedded? h)
      have ha := fun vs (h : v.elements? = some vs) => ha vs (Wire.Value.arrayValue_of_elements? h)
      constructor
      · rintro ⟨⟨hh, hf⟩, hq, hqs⟩
        refine ⟨hh, fun vs hvs w hw => ?_, fun e h => (he e h).1 (hq e h)⟩
        exact (ha vs hvs w hw).1 ⟨hf vs hvs w hw, hqs vs hvs w hw⟩
      · rintro ⟨hh, hvs, hes⟩
        refine ⟨⟨hh, fun vs h w hw => ?_⟩, fun e h => (he e h).2 (hes e h), fun vs h w hw => ?_⟩
        · exact ((ha vs h w hw).2 (hvs vs h w hw)).1
        · exact ((ha vs h w hw).2 (hvs vs h w hw)).2
    · unfold Entity.WellShaped
      rw [Entity.throughout_iff, Entity.settingsFit_ofWire_iff,
        Entity.forall_properties_ofWire_iff (Value.Throughout Entity.SettingsFit), Wire.Entity.clear_iff]
      have hp : ∀ n v, e.properties.find? n = some v → _ :=
        fun n v h => hp (n, v) (NameMap.mem_of_find? h)
      constructor
      · rintro ⟨hf, hq⟩ n v h
        exact (hp n v h).1 ⟨hf n v h, hq n v h⟩
      · intro h
        exact ⟨fun n v hv => ((hp n v hv).2 (h n v hv)).1, fun n v hv => ((hp n v hv).2 (h n v hv)).2⟩
  exact hc.forall_entity w

theorem Entity.reread_eq_iff (w : Wire.Entity) :
    (Entity.ofWire w).normal = Entity.ofWire w ↔ w.Clear := by
  rw [← Entity.wellShaped_ofWire_iff]
  constructor
  · intro h
    rw [← h]
    exact Entity.wellShaped_normal _
  · exact Entity.normal_of_wellShaped (Entity.ordered_ofWire w)

/-- The settings of a property are settings of elements only if it is an array of as many elements. -/
def Entity.ElementsMatch (e : Entity) : Prop :=
  ∀ n s, e.settings? n = some s →
    s.elements = [] ∨ ∃ vs, e.get? n = some (.array vs) ∧ s.elements.length = vs.length

theorem Entity.SettingsFit.elementsMatch {e : Entity} (h : e.SettingsFit) : e.ElementsMatch := by
  intro n s hs
  obtain ⟨-, v, hv, hf⟩ := h (n, s) (NameMap.mem_of_find? hs)
  cases hf with
  | plain he => exact .inl he
  | elements hl _ _ => exact .inr ⟨_, hv, hl⟩

/-- A message whose values have one content each, or none, is clear. -/
theorem Wire.Entity.clear_of_contentCount {w : Wire.Entity}
    (h : w.Throughout (fun v => v.contentCount ≤ 1) fun _ => True) : w.Clear := by
  have hc : Wire.Compositional
      (fun v => v.Throughout (fun v => v.contentCount ≤ 1) (fun _ => True) → v.Clear)
      (fun e => e.Throughout (fun v => v.contentCount ≤ 1) (fun _ => True) → e.Clear) := by
    refine ⟨fun v he ha h => ?_, fun e hp h => ?_⟩
    · obtain ⟨hv, hes, hvs⟩ := (Wire.Value.throughout_iff v).1 h
      refine .intro (fun hn vs hvs' => ?_) (fun vs h w hw => ?_) (fun e h => ?_)
      · cases Wire.Value.single_of_contentCount hv with
        | array us m o => cases hn
        | _ => cases hvs'
      · have h := Wire.Value.arrayValue_of_elements? h
        exact ha vs h w hw (hvs vs h w hw)
      · have h := Wire.Value.entityValue_of_embedded? h
        exact he e h (hes e h)
    · obtain ⟨-, hps⟩ := (Wire.Entity.throughout_iff e).1 h
      refine .intro fun n v hv => ?_
      have hm : (n, v) ∈ e.properties.entries := NameMap.mem_of_find? hv
      exact hp (n, v) hm (hps (n, v) hm)
  exact hc.forall_entity w h

/-- **What was read comes back exactly if its message is clear.** Written and read again, the entity of
a message is the same one if nothing is said about the elements of an array that stands beside other
content, and then every property that has settings of elements is an array of just as many. Messages
in which each value has one content at most are clear. -/
theorem Entity.reread_iff_clear (w : Wire.Entity) :
    (Entity.ofWire (Entity.ofWire w).toWire = Entity.ofWire w ↔ w.Clear) ∧
    (w.Clear → (Entity.ofWire w).Throughout Entity.ElementsMatch) ∧
    (w.Throughout (fun v => v.contentCount ≤ 1) (fun _ => True) → w.Clear) := by
  refine ⟨Entity.reread_eq_iff w, fun h => ?_, Wire.Entity.clear_of_contentCount⟩
  have hw : (Entity.ofWire w).WellShaped := (Entity.wellShaped_ofWire_iff w).2 h
  exact hw.mono fun _ => Entity.SettingsFit.elementsMatch

/-- An array with settings, and beside it a boolean with an array of which nothing is said: this is
clear, though the boolean has two contents. The array alone is clear because it has one. -/
theorem Entity.reread_iff_clear_tags :
    let tags : Wire.Value := { arrayValue := some [{}, { excludeFromIndexes := some true }] }
    let done : Wire.Value :=
      { booleanValue := some true, arrayValue := some [{ integerValue := some 1 }], meaning := some 3 }
    let both : Wire.Entity := { properties := ⟨[("done", done), ("tags", tags)]⟩ }
    let one : Wire.Entity := { properties := ⟨[("tags", tags)]⟩ }
    Entity.ofWire (Entity.ofWire both).toWire = Entity.ofWire both ∧ both.Clear ∧
    (Entity.ofWire both).Throughout Entity.ElementsMatch ∧
    one.Throughout (fun v => v.contentCount ≤ 1) (fun _ => True) ∧ one.Clear := by
  intro tags done both one
  have hr : Entity.ofWire (Entity.ofWire both).toWire = Entity.ofWire both := rfl
  have hb : both.Clear := (Entity.reread_iff_clear both).1.1 hr
  have ho : one.Throughout (fun v => v.contentCount ≤ 1) fun _ => True := by
    simp [one, tags, Wire.Entity.Throughout, Wire.Value.PropertiesThroughout, Wire.Value.Throughout,
      Wire.Value.AllThroughout, Wire.Value.contentCount]
  exact ⟨hr, hb, (Entity.reread_iff_clear both).2.1 hb, ho, (Entity.reread_iff_clear one).2.2 ho⟩

/-- A string with an array beside it, as JSON may say: the settings of the array's element are read,
and are lost when the string is written. -/
theorem Entity.reread_hidden_array :
    let a : Wire.Value := { stringValue := some "x", arrayValue := some [{ meaning := some 1 }] }
    let w : Wire.Entity := { properties := ⟨[("a", a)]⟩ }
    Wire.Entity.ofJson w.toJson = .ok w ∧
    (Entity.ofWire w).get? "a" = some (.string "x") ∧
    (Entity.ofWire w).settings? "a" = some { elements := [{ meaning := some 1 }] } ∧
    Entity.ofWire (Entity.ofWire w).toWire ≠ Entity.ofWire w := by
  intro a w
  have hj : Wire.Entity.ofJson w.toJson = .ok w := by
    obtain ⟨v, hv, hw⟩ := Wire.Entity.restored w
    have hf : w.Faithful := by
      simp [w, a, Wire.Entity.Faithful, Wire.Entity.Throughout, Wire.Value.PropertiesThroughout,
        Wire.Value.Throughout, Wire.Value.AllThroughout, NameMap.Ascending, NameMap.names]
    rw [hv, hw hf]
  have h₁ : (Entity.ofWire w).settings? "a" = some { elements := [{ meaning := some 1 }] } := by
    decide
  have h₂ : (Entity.ofWire (Entity.ofWire w).toWire).settings? "a" = none := by decide
  refine ⟨hj, rfl, h₁, fun h => ?_⟩
  rw [h, h₁] at h₂
  cases h₂

end CloudData
