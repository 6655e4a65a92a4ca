/-
How the conversions between entities and their messages treat lists and maps:
element by element and name by name.

`entries_propertiesOfWire`: the values of a message whose names ascend are those
of its entries. `find?_ofProperties`: settings are kept under the names of the
message, and only those that are not empty. `apply_empty`: empty settings have no
effect on the message of a value, so nothing is lost where none are kept.
`Entity.find?_toWire`: what the message of an entity has under a name.
-/
import CloudData.Entity.Message

namespace CloudData

/-! ## Keys -/

theorem PathElement.ofWire_toWire (e : PathElement) : PathElement.ofWire e.toWire = e := by
  obtain ⟨kind, _ | _ | _⟩ := e <;> rfl

theorem Key.getD_unlessEmpty (s : String) : (Key.unlessEmpty s).getD "" = s := by
  unfold Key.unlessEmpty
  split
  · rename_i h
    rw [Option.getD_none, String.isEmpty_iff.1 h]
  · rfl

/-- Keys survive the way to their messages and back. -/
theorem Key.ofWire_toWire (k : Key) : Key.ofWire k.toWire = k := by
  have he : k.path.map (PathElement.ofWire ∘ PathElement.toWire) = k.path :=
    (List.map_congr_left fun e _ => PathElement.ofWire_toWire e).trans (List.map_id _)
  simp [Key.ofWire, Key.toWire, Key.partition, Key.getD_unlessEmpty, he]

/-! ## Lists -/

theorem Value.allOfWire_eq_map (vs : List Wire.Value) : Value.allOfWire vs = vs.map Value.ofWire := by
  induction vs with
  | nil => rfl
  | cons v vs ih => rw [Value.allOfWire, ih, List.map_cons]

theorem Value.allToWire_eq_map (vs : List Value) : Value.allToWire vs = vs.map Value.toWire := by
  induction vs with
  | nil => rfl
  | cons v vs ih => rw [Value.allToWire, ih, List.map_cons]

theorem Value.toWire_array (vs : List Value) :
    (Value.array vs).toWire = { arrayValue := some (vs.map Value.toWire) } := by
  rw [Value.toWire, Value.allToWire_eq_map]

theorem Value.propertiesToWire_eq_map (ss : NameMap Settings) (ps : List (String × Value)) :
    Value.propertiesToWire ss ps =
      ps.map fun p => (p.1, Settings.applyNamed ss p.1 p.2.toWire) := by
  induction ps with
  | nil => rfl
  | cons p ps ih => rw [Value.propertiesToWire, ih, List.map_cons]

theorem Settings.allOfWire_eq_map (vs : List Wire.Value) :
    Settings.allOfWire vs = vs.map Settings.ofWire := by
  induction vs with
  | nil => rfl
  | cons v vs ih => rw [Settings.allOfWire, ih, List.map_cons]

@[simp] theorem Settings.applyAll_nil (vs : List Wire.Value) : Settings.applyAll [] vs = vs := by
  simp [Settings.applyAll]

/-! ## Settings of one value -/

@[simp] theorem Settings.arrayValue_apply (s : Settings) (v : Wire.Value) :
    (s.apply v).arrayValue = v.arrayValue.map (Settings.applyAll s.elements) := by
  obtain ⟨x, m, es⟩ := s
  cases h : v.arrayValue <;> simp [Settings.apply, h]

theorem Settings.isEmpty_iff (s : Settings) : s.isEmpty = true ↔ s = {} := by
  obtain ⟨x, m, es⟩ := s
  simp [Settings.isEmpty, and_assoc]

/-- Empty settings have no effect on a message that has none. -/
theorem Settings.apply_empty (v : Value) : Settings.apply {} v.toWire = v.toWire := by
  cases v <;> simp [Value.toWire, Settings.apply]

/-- Each settings meet the value at their position, and where there are none it is as if they were
empty. -/
theorem Settings.getElem?_applyAll (ss : List Settings) (vs : List Value) (i : Nat) :
    (Settings.applyAll ss (vs.map Value.toWire))[i]? =
      vs[i]?.map fun v => (ss.getD i {}).apply v.toWire := by
  induction vs generalizing ss i with
  | nil => cases ss <;> simp [Settings.applyAll]
  | cons v vs ih =>
    cases ss with
    | nil => rw [Settings.applyAll_nil, List.getElem?_map]; simp [Settings.apply_empty]
    | cons s ss =>
      cases i with
      | zero => rfl
      | succ i => simpa [Settings.applyAll] using ih ss i

/-- Settings that are not kept under a name are as good as empty ones. -/
theorem Settings.applyNamed_toWire (ss : NameMap Settings) (n : String) (v : Value) :
    Settings.applyNamed ss n v.toWire = ((ss.find? n).getD {}).apply v.toWire := by
  unfold Settings.applyNamed
  cases ss.find? n with
  | none => exact (Settings.apply_empty v).symm
  | some s => rfl

/-! ## Names -/

theorem ascending_propertiesOfWire (ps : List (String × Wire.Value)) :
    (Value.propertiesOfWire ps).Ascending := by
  induction ps with
  | nil => rw [Value.propertiesOfWire]; exact NameMap.ascending_empty
  | cons p ps ih => exact ih.insert p.1 (Value.ofWire p.2)

theorem mem_propertiesOfWire {ps : List (String × Wire.Value)} {x : String × Value}
    (h : x ∈ (Value.propertiesOfWire ps).entries) : ∃ p ∈ ps, x = (p.1, Value.ofWire p.2) := by
  induction ps with
  | nil => simp [Value.propertiesOfWire] at h
  | cons p ps ih =>
    rcases NameMap.mem_insertEntry h with rfl | h
    · exact ⟨p, by simp, rfl⟩
    · obtain ⟨q, hq, rfl⟩ := ih h
      exact ⟨q, by simp [hq], rfl⟩

/-- Entries whose names ascend are converted in place. -/
theorem entries_propertiesOfWire {ps : List (String × Wire.Value)}
    (h : (ps.map (·.1)).Pairwise (· < ·)) :
    (Value.propertiesOfWire ps).entries = ps.map fun p => (p.1, Value.ofWire p.2) := by
  induction ps with
  | nil => rw [Value.propertiesOfWire]; rfl
  | cons p ps ih =>
    rw [List.map_cons, List.pairwise_cons] at h
    have hn : ∀ k ∈ (Value.propertiesOfWire ps).entries.map (·.1), p.1 < k := by
      rw [ih h.2, List.map_map]
      exact h.1
    rw [Value.propertiesOfWire, NameMap.insert, NameMap.insertEntry_of_lt hn, ih h.2, List.map_cons]

theorem Value.find?_propertiesOfWire (ps : List (String × Wire.Value)) (k : String) :
    (Value.propertiesOfWire ps).find? k = (ps.lookup k).map Value.ofWire := by
  induction ps with
  | nil => rw [Value.propertiesOfWire]; rfl
  | cons p ps ih =>
    obtain ⟨n, v⟩ := p
    rw [Value.propertiesOfWire, NameMap.find?_insert, NameMap.lookup_cons_ite, ih]
    split <;> rfl

theorem Settings.ascending_put {m : NameMap Settings} (h : m.Ascending) (n : String) (s : Settings) :
    (Settings.put m n s).Ascending := by
  unfold Settings.put
  split
  · exact h.erase n
  · exact h.insert n s

theorem Settings.ascending_ofProperties (ps : List (String × Wire.Value)) :
    (Settings.ofProperties ps).Ascending := by
  induction ps with
  | nil => rw [Settings.ofProperties]; exact NameMap.ascending_empty
  | cons p ps ih => exact Settings.ascending_put ih p.1 (Settings.ofWire p.2)

theorem Settings.find?_put (m : NameMap Settings) (n k : String) (s : Settings) :
    (Settings.put m n s).find? k =
      if k = n then (if s.isEmpty then none else some s) else m.find? k := by
  unfold Settings.put
  split
  · exact NameMap.find?_erase m n k
  · exact NameMap.find?_insert m n k s

/-- The settings kept under a name are those of the first value of that name, unless empty. -/
theorem Settings.find?_ofProperties (ps : List (String × Wire.Value)) (k : String) :
    (Settings.ofProperties ps).find? k =
      (ps.lookup k).bind fun v =>
        if (Settings.ofWire v).isEmpty then none else some (Settings.ofWire v) := by
  induction ps with
  | nil => rw [Settings.ofProperties]; rfl
  | cons p ps ih =>
    obtain ⟨n, v⟩ := p
    rw [Settings.ofProperties, Settings.find?_put, NameMap.lookup_cons_ite, ih]
    split <;> rfl

/-! ## Entities -/

theorem Entity.ofWire_eq (w : Wire.Entity) :
    Entity.ofWire w =
      { key := w.key.map Key.ofWire
        properties := Value.propertiesOfWire w.properties.entries
        settings := Settings.ofProperties w.properties.entries } := by
  obtain ⟨k, ⟨ps⟩⟩ := w; rw [Entity.ofWire]

theorem Entity.toWire_eq (e : Entity) :
    e.toWire =
      { key := e.key.map Key.toWire
        properties := ⟨e.properties.entries.map fun p =>
          (p.1, Settings.applyNamed e.settings p.1 p.2.toWire)⟩ } := by
  obtain ⟨k, ⟨ps⟩, ss⟩ := e; rw [Entity.toWire, Value.propertiesToWire_eq_map]

/-- A property goes out with the settings of its name. -/
theorem Entity.find?_toWire (e : Entity) (n : String) :
    e.toWire.properties.find? n =
      (e.get? n).map fun v => ((e.settings? n).getD {}).apply v.toWire := by
  rw [Entity.toWire_eq]
  refine (NameMap.lookup_map (fun k (v : Value) => Settings.applyNamed e.settings k v.toWire) n _).trans ?_
  exact congrArg (fun f => (e.get? n).map f)
    (funext fun v => Settings.applyNamed_toWire e.settings n v)

/-- A property comes in as its value. -/
theorem Entity.get?_ofWire (w : Wire.Entity) (n : String) :
    (Entity.ofWire w).get? n = (w.properties.find? n).map Value.ofWire := by
  rw [Entity.ofWire_eq]
  exact Value.find?_propertiesOfWire w.properties.entries n

/-- The settings of a property are kept unless they are empty. -/
theorem Entity.settings?_ofWire (w : Wire.Entity) (n : String) :
    (Entity.ofWire w).settings? n =
      ((w.properties.find? n).map Settings.ofWire).filter (· ≠ {}) := by
  rw [Entity.ofWire_eq]
  refine (Settings.find?_ofProperties w.properties.entries n).trans ?_
  unfold NameMap.find?
  cases w.properties.entries.lookup n with
  | none => rfl
  | some v =>
    rw [Option.bind_some, Option.map_some, Option.filter_some]
    by_cases h : Settings.ofWire v = {}
    · rw [if_pos ((Settings.isEmpty_iff _).2 h), if_neg (by simpa using h)]
    · rw [if_neg fun he => h ((Settings.isEmpty_iff _).1 he), if_pos (by simpa using h)]

end CloudData
