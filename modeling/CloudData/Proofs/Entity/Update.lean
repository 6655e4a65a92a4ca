/-
What a run of updates leaves of an entity that was read from a message, and what
the message of the result says.

`get?_applyAll`, `settings?_applyAll`: the last update of a name counts, and of
its value and its settings each on its own. `Settings.bare_apply_toWire`,
`Settings.indexed_apply_toWire`: in a message, the content comes from the value
and everything about indexes from the settings, position by position.
`Built.normal_eq_iff`: which of the entities that are made come back unchanged.
-/
import CloudData.Proofs.Entity.Normal
import CloudData.Proofs.Run
import CloudData.Proofs.Wire.Throughout

namespace CloudData

/-! ## Content and settings in a message -/

mutual

/-- The content of a value: without its settings, and without those of its elements. -/
def Wire.Value.bare : Wire.Value → Wire.Value
  | ⟨b, i, d, k, s, x, e, none, _, _⟩ => ⟨b, i, d, k, s, x, e, none, none, none⟩
  | ⟨b, i, d, k, s, x, e, some vs, _, _⟩ =>
    ⟨b, i, d, k, s, x, e, some (Wire.Value.allBare vs), none, none⟩

/-- The contents of the values of a list. -/
def Wire.Value.allBare : List Wire.Value → List Wire.Value
  | [] => []
  | v :: vs => v.bare :: Wire.Value.allBare vs

end

/-- A value has these settings: its own, and each of its elements those at its position, or empty
ones where there are no more. -/
inductive Wire.Value.Indexed : Wire.Value → Settings → Prop
  | intro {v s} (exclude : v.excludeFromIndexes = s.excludeFromIndexes)
      (meaning : v.meaning = s.meaning)
      (elements : ∀ vs, v.arrayValue = some vs →
        ∀ i w, vs[i]? = some w → Indexed w (s.elements.getD i {})) : Indexed v s

theorem Wire.Value.allBare_eq_map (vs : List Wire.Value) : Wire.Value.allBare vs = vs.map bare := by
  induction vs with
  | nil => rfl
  | cons v vs ih => rw [allBare, ih, List.map_cons]

theorem Wire.Value.bare_eq (v : Wire.Value) :
    v.bare =
      { v with
        arrayValue := v.arrayValue.map (List.map bare)
        meaning := none
        excludeFromIndexes := none } := by
  obtain ⟨b, i, d, k, s, x, e, a, m, o⟩ := v
  cases a with
  | none => rfl
  | some vs => rw [bare, allBare_eq_map]; rfl

theorem Value.bare_toWire (v : Value) : v.toWire.bare = v.toWire := by
  induction v using Value.forall_of_elements with
  | h v ih =>
  cases v with
  | array vs =>
    have hb : vs.map (Wire.Value.bare ∘ Value.toWire) = vs.map Value.toWire :=
      List.map_congr_left (ih vs rfl)
    rw [Value.toWire_array, Wire.Value.bare_eq]
    simp [hb]
  | _ => rfl

-- by the recursion of `apply`: settings and their elements are taken apart, not the value
mutual

theorem Settings.bare_apply : ∀ (s : Settings) (v : Wire.Value), (s.apply v).bare = v.bare
  | ⟨x, m, es⟩, v => by
    have h := Settings.map_bare_applyAll es
    obtain ⟨b, i, d, k, s, y, e, a, m', o⟩ := v
    cases a <;> simp [Settings.apply, Wire.Value.bare_eq, h]

theorem Settings.map_bare_applyAll : ∀ (ss : List Settings) (vs : List Wire.Value),
    (Settings.applyAll ss vs).map Wire.Value.bare = vs.map Wire.Value.bare
  | [], vs => by rw [Settings.applyAll_nil]
  | _ :: _, [] => rfl
  | s :: ss, v :: vs => by
    rw [Settings.applyAll, List.map_cons, List.map_cons, Settings.bare_apply s v,
      Settings.map_bare_applyAll ss vs]

end

/-- The message of a value with settings has these settings. -/
theorem Settings.indexed_apply_toWire (s : Settings) (v : Value) : (s.apply v.toWire).Indexed s := by
  induction v using Value.forall_of_elements generalizing s with
  | h v ih =>
  obtain ⟨x, m, es⟩ := s
  refine .intro rfl rfl fun vs hvs i w hw => ?_
  rw [Settings.arrayValue_apply, Option.map_eq_some_iff] at hvs
  obtain ⟨us, hus, rfl⟩ := hvs
  cases v with
  | array vs =>
    rw [Value.toWire_array] at hus
    cases hus
    rw [Settings.getElem?_applyAll, Option.map_eq_some_iff] at hw
    obtain ⟨y, hy, rfl⟩ := hw
    exact ih vs rfl y (List.mem_of_getElem? hy) _
  | _ => cases hus

/-! ## Entities in values -/

/-- A value holds an entity: it is the entity, or one of its elements holds it. -/
inductive Value.Holds : Value → Entity → Prop
  | entity (e : Entity) : Holds (.entity e) e
  | array {vs : List Value} {v : Value} {e : Entity} (hv : v ∈ vs) (h : Holds v e) : Holds (.array vs) e

theorem Value.ordered_of_holds {v : Value} (h : ∀ e, v.Holds e → e.Ordered) : v.Ordered := by
  induction v using Value.forall_of_elements with
  | h v ih =>
  cases v with
  | entity e => exact (Value.throughout_entity _).2 (h e (.entity e))
  | array vs =>
    exact (Value.throughout_array _).2 fun w hw => ih vs rfl w hw fun e he => h e (.array hw he)
  | _ => trivial

/-! ## Runs of updates -/

namespace Entity

namespace Update

/-- The key that an update sets. -/
def key? : Update → Option Key
  | .key k => some k
  | _ => none

/-- The value that an update sets for a name. -/
def value? (name : String) : Update → Option Value
  | .property n v => if n = name then some v else none
  | _ => none

/-- The settings that an update sets for a name. -/
def settings? (name : String) : Update → Option Settings
  | .settings n s => if n = name then some s else none
  | _ => none

/-- The name of the property that an update is about. -/
def name? : Update → Option String
  | .key _ => none
  | .property n _ => some n
  | .settings n _ => some n

theorem value?_eq_none {n : String} {u : Update} (h : u.name? ≠ some n) : u.value? n = none := by
  cases u with
  | property m v => exact if_neg fun hm => h (congrArg some hm)
  | _ => rfl

theorem settings?_eq_none {n : String} {u : Update} (h : u.name? ≠ some n) :
    u.settings? n = none := by
  cases u with
  | settings m s => exact if_neg fun hm => h (congrArg some hm)
  | _ => rfl

theorem isSome_value?_iff (u : Update) (n : String) :
    (u.value? n).isSome ↔ ∃ v, u = .property n v := by
  cases u with
  | property m v => by_cases h : m = n <;> simp [value?, h]
  | _ => simp [value?]

theorem isSome_lastSet?_value (n : String) (us : List Update) :
    (lastSet? (value? n) us).isSome ↔ ∃ v, .property n v ∈ us :=
  isSome_lastSet?_iff (fun u => u.isSome_value?_iff n) us

end Update

theorem key_apply (e : Entity) (u : Update) : (e.apply u).key = u.key?.or e.key := by
  cases u <;> rfl

theorem get?_apply (n : String) (e : Entity) (u : Update) :
    (e.apply u).get? n = (u.value? n).or (e.get? n) := by
  cases u with
  | property m v =>
    refine (NameMap.find?_insert e.properties m n v).trans ?_
    by_cases h : n = m
    · simp [h, Update.value?]
    · rw [if_neg h, Update.value?, if_neg (Ne.symm h)]
      rfl
  | _ => rfl

/-- Settings that are not there are as good as empty ones, so removing is setting empty ones. -/
theorem settings?_apply (n : String) (e : Entity) (u : Update) :
    ((e.apply u).settings? n).getD {} = (u.settings? n).getD ((e.settings? n).getD {}) := by
  cases u with
  | settings m s =>
    refine (congrArg (Option.getD · {}) (Settings.find?_put e.settings m n s)).trans ?_
    by_cases h : n = m
    · by_cases hs : s = {}
      · simp [h, hs, Update.settings?, Settings.isEmpty_iff]
      · simp [h, hs, Update.settings?, Settings.isEmpty_iff]
    · rw [if_neg h, Update.settings?, if_neg (Ne.symm h)]
      rfl
  | _ => rfl

theorem key_applyAll (e : Entity) (us : List Update) :
    (e.applyAll us).key = (lastSet? Update.key? us).or e.key :=
  foldl_or key_apply e us

theorem get?_applyAll (n : String) (e : Entity) (us : List Update) :
    (e.applyAll us).get? n = (lastSet? (Update.value? n) us).or (e.get? n) :=
  foldl_or (g := (get? · n)) (get?_apply n) e us

theorem settings?_applyAll (n : String) (e : Entity) (us : List Update) :
    ((e.applyAll us).settings? n).getD {} =
      (lastSet? (Update.settings? n) us).getD ((e.settings? n).getD {}) :=
  foldl_getD (g := fun e => (settings? e n).getD {}) (settings?_apply n) e us

theorem MapsAscend.apply {e : Entity} (h : e.MapsAscend) (u : Update) : (e.apply u).MapsAscend := by
  cases u with
  | key k => exact ⟨h.properties, h.settings⟩
  | property n v => exact ⟨h.properties.insert n v, h.settings⟩
  | settings n s => exact ⟨h.properties, Settings.ascending_put h.settings n s⟩

theorem MapsAscend.applyAll {e : Entity} (h : e.MapsAscend) (us : List Update) :
    (e.applyAll us).MapsAscend := by
  induction us generalizing e with
  | nil => exact h
  | cons u us ih => exact ih (h.apply u)

/-! ## Order

Every entity that is made with the operations on entities has the names of its maps in order. So of
these entities it is the well-shaped ones that come back from their messages unchanged.
-/

theorem ordered_ofWire (w : Wire.Entity) : (ofWire w).Ordered := by
  have hc : Wire.Compositional (fun v => (Value.ofWire v).Ordered) (fun e => (ofWire e).Ordered) := by
    refine ⟨fun v he ha => ?_, fun e hp => ?_⟩
    · unfold Value.ofWire
      split
      -- of the kinds of content, only an entity and an array hold entities
      case h_7 => exact (Value.throughout_entity _).2 (he _ rfl)
      case h_8 =>
        rw [Value.allOfWire_eq_map]
        exact (Value.throughout_array _).2 (List.forall_mem_map.2 (ha _ rfl))
      all_goals trivial
    · refine (throughout_iff _).2 ⟨mapsAscend_ofWire e, fun p h => ?_⟩
      rw [ofWire_eq] at h
      obtain ⟨x, hx, rfl⟩ := mem_propertiesOfWire h
      exact hp x hx
  exact hc.forall_entity w

theorem ordered_empty : ({} : Entity).Ordered :=
  (throughout_iff _).2 ⟨⟨NameMap.ascending_empty, NameMap.ascending_empty⟩, nofun⟩

theorem Ordered.apply {e : Entity} (h : e.Ordered) {u : Update}
    (hu : ∀ n v, u = .property n v → v.Ordered) : (e.apply u).Ordered := by
  obtain ⟨ha, hp⟩ := (throughout_iff e).1 h
  refine (throughout_iff _).2 ⟨ha.apply u, fun p hm => ?_⟩
  cases u with
  | property n v =>
    rcases NameMap.mem_insertEntry hm with rfl | hm
    · exact hu n v rfl
    · exact hp p hm
  | _ => exact hp p hm

theorem ordered_ofKey (k : Key) : (ofKey k).Ordered :=
  ordered_empty.apply (u := .key k) nofun

/-- An entity that comes from nothing, from a key or from a message, by updates with values in which
every entity does. -/
inductive Built : Entity → Prop
  | empty : Built {}
  | ofKey (k : Key) : Built (ofKey k)
  | ofWire (w : Wire.Entity) : Built (ofWire w)
  | apply {e : Entity} (u : Update) (h : Built e)
      (held : ∀ n v, u = .property n v → ∀ f, v.Holds f → Built f) : Built (e.apply u)

theorem Built.ordered {e : Entity} (h : e.Built) : e.Ordered := by
  induction h with
  | empty => exact ordered_empty
  | ofKey k => exact ordered_ofKey k
  | ofWire w => exact ordered_ofWire w
  | apply u _ _ ih held => exact ih.apply fun n v hu => Value.ordered_of_holds (held n v hu)

/-- Of the entities that are made with the operations, just the well-shaped ones come back from their
messages unchanged. -/
theorem Built.normal_eq_iff {e : Entity} (h : e.Built) : e.normal = e ↔ e.WellShaped :=
  e.normal_eq_iff.trans (and_iff_right h.ordered)

/-! ## The message of the result -/

theorem ascending_toWire {e : Entity} (h : e.MapsAscend) : e.toWire.properties.Ascending := by
  rw [toWire_eq]
  simpa [NameMap.Ascending, NameMap.names, Function.comp_def] using h.properties

theorem map_bare_find?_toWire (e : Entity) (n : String) :
    (e.toWire.properties.find? n).map Wire.Value.bare = (e.get? n).map Value.toWire := by
  rw [find?_toWire, Option.map_map]
  refine congrArg (fun f => (e.get? n).map f) (funext fun v => ?_)
  rw [Function.comp_apply, Settings.bare_apply, Value.bare_toWire]

theorem indexed_find?_toWire {e : Entity} {n : String} {v : Wire.Value}
    (h : e.toWire.properties.find? n = some v) : v.Indexed ((e.settings? n).getD {}) := by
  rw [find?_toWire, Option.map_eq_some_iff] at h
  obtain ⟨x, -, rfl⟩ := h
  exact Settings.indexed_apply_toWire _ x

theorem getD_settings?_ofWire (w : Wire.Entity) (n : String) :
    ((ofWire w).settings? n).getD {} = ((w.properties.find? n).map Settings.ofWire).getD {} := by
  rw [settings?_ofWire]
  cases (w.properties.find? n).map Settings.ofWire with
  | none => rfl
  | some s =>
    rw [Option.filter_some]
    by_cases h : s = {}
    · rw [if_neg (by simpa using h), h]
      rfl
    · rw [if_pos (by simpa using h)]

theorem mem_names_toWire (e : Entity) (n : String) :
    n ∈ e.toWire.properties.names ↔ (e.get? n).isSome := by
  rw [NameMap.mem_names_iff, find?_toWire, Option.isSome_map]

/-- **Reading an entity, updating it and writing it changes what the updates say and nothing else.**
Of the key, of the value of each property and of its settings the last update counts, each on its own,
and where there is none, what the message had. Content and settings meet again position by position.
A property that no update is about is as it was. -/
theorem updated_message {w : Wire.Entity} (hw : (ofWire w).toWire = w) (us : List Update) :
    let r := ((ofWire w).applyAll us).toWire
    r.key = ((lastSet? Update.key? us).map Key.toWire).or w.key ∧
    r.properties.Ascending ∧
    (∀ n, n ∈ r.properties.names ↔ n ∈ w.properties.names ∨ ∃ v, .property n v ∈ us) ∧
    (∀ n, (r.properties.find? n).map Wire.Value.bare =
      ((lastSet? (Update.value? n) us).map Value.toWire).or
        ((w.properties.find? n).map Wire.Value.bare)) ∧
    (∀ n v, r.properties.find? n = some v →
      v.Indexed ((lastSet? (Update.settings? n) us).getD
        (((w.properties.find? n).map Settings.ofWire).getD {}))) ∧
    ∀ n, (∀ u ∈ us, u.name? ≠ some n) → r.properties.find? n = w.properties.find? n := by
  intro r
  -- `w` is itself the message of an entity, the one that was read from it
  have hkey (e : Entity) : e.toWire.key = e.key.map Key.toWire := by rw [toWire_eq]
  have hnames (n : String) : n ∈ w.properties.names ↔ ((ofWire w).get? n).isSome := by
    rw [← mem_names_toWire, hw]
  have hbare (n : String) :
      (w.properties.find? n).map Wire.Value.bare = ((ofWire w).get? n).map Value.toWire := by
    rw [← map_bare_find?_toWire, hw]
  refine ⟨?_, ?_, fun n => ?_, fun n => ?_, fun n v hv => ?_, fun n hn => ?_⟩
  · rw [hkey, key_applyAll, Option.map_or, ← hkey, hw]
  · exact ascending_toWire ((mapsAscend_ofWire w).applyAll us)
  · rw [mem_names_toWire, get?_applyAll, Option.isSome_or, Bool.or_eq_true,
      Update.isSome_lastSet?_value, ← hnames, or_comm]
  · rw [map_bare_find?_toWire, get?_applyAll, Option.map_or, ← hbare]
  · have hi := indexed_find?_toWire hv
    rwa [settings?_applyAll, getD_settings?_ofWire] at hi
  · -- neither the value nor the settings are set, so the message is made of what was read
    have hv : lastSet? (Update.value? n) us = none :=
      lastSet?_eq_none_iff.2 fun u hu => Update.value?_eq_none (hn u hu)
    have hs : lastSet? (Update.settings? n) us = none :=
      lastSet?_eq_none_iff.2 fun u hu => Update.settings?_eq_none (hn u hu)
    have hr : r.properties.find? n = (ofWire w).toWire.properties.find? n := by
      rw [find?_toWire, find?_toWire, settings?_applyAll, get?_applyAll, hv, hs]
      rfl
    rw [hr, hw]

/-- A task whose tags are replaced and whose notes, with all their settings, are left alone. -/
theorem updated_message_task :
    let w : Wire.Entity :=
      { properties := ⟨[("notes", { stringValue := some "milk", excludeFromIndexes := some true }),
          ("tags", { arrayValue := some [{ integerValue := some 1, meaning := some 9 }] })]⟩ }
    let us : List Update := [.property "tags" (.array [.boolean true, .null]), .key {}]
    (ofWire w).toWire = w ∧
    ((ofWire w).applyAll us).toWire.properties.find? "notes" =
      some { stringValue := some "milk", excludeFromIndexes := some true } ∧
    ∀ v, ((ofWire w).applyAll us).toWire.properties.find? "tags" = some v →
      v.Indexed { elements := [{ meaning := some 9 }] } := by
  intro w us
  have hw : (ofWire w).toWire = w := rfl
  obtain ⟨-, -, -, -, hi, hn⟩ := updated_message hw us
  exact ⟨hw, hn "notes" (by decide), hi "tags"⟩

end Entity

end CloudData
