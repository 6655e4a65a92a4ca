/-
What becomes of an entity that is written as a message and read again.

`Settings.fitTo`: settings cut and filled up to the shape of a value.
`Value.ofWire_apply_toWire`, `Settings.ofWire_apply_toWire`: a value and its
settings, written as one message, are read back as the value, with the entities
in it read back in turn, and as the settings fitted to it.
`Entity.wellShaped_normal`, `Entity.normal_eq_iff`: what is read back is in normal
form, and just the entities in normal form are read back as they were.
-/
import CloudData.Proofs.Entity.Conversion
import CloudData.Proofs.Entity.Induction

namespace CloudData

/-! ## Settings and the shape of a value -/

mutual

/-- The settings with one of the element settings for each element of the value, if it is an array;
with none if it is not, or if all of them are empty. -/
def Settings.fitTo : Settings → Value → Settings
  | s, .array vs =>
    let es := Settings.fitAll s.elements vs
    { s with elements := if ∀ t ∈ es, t = {} then [] else es }
  | s, _ => { s with elements := [] }

/-- One of the settings for each value: those that are too many are cut off, and where there are too
few, empty ones fill up. -/
def Settings.fitAll : List Settings → List Value → List Settings
  | _, [] => []
  | [], _ :: vs => {} :: Settings.fitAll [] vs
  | s :: ss, v :: vs => s.fitTo v :: Settings.fitAll ss vs

end

/-- Settings have the shape of a value: no element settings, or just one for each element of an
array, of the shape of that element, and not all of them empty. -/
inductive Settings.Fits : Settings → Value → Prop
  | plain {s v} (h : s.elements = []) : Fits s v
  | elements {s vs} (hl : s.elements.length = vs.length)
      (hf : ∀ p ∈ s.elements.zip vs, Fits p.1 p.2) (hn : ∃ t ∈ s.elements, t ≠ {}) :
      Fits s (.array vs)

namespace Settings

theorem length_fitAll (ss : List Settings) (vs : List Value) :
    (fitAll ss vs).length = vs.length := by
  induction vs generalizing ss with
  | nil => cases ss <;> rfl
  | cons v vs ih => cases ss <;> simp [fitAll, ih]

theorem eq_empty_of_mem_fitAll_nil {vs : List Value} : ∀ t ∈ fitAll [] vs, t = {} := by
  induction vs with
  | nil => simp [fitAll]
  | cons v vs ih => simpa [fitAll] using ih

/-- Settings without elements fit every value. -/
theorem fitTo_of_elements_eq_nil {s : Settings} (h : s.elements = []) (v : Value) :
    s.fitTo v = s := by
  obtain ⟨x, m, es⟩ := s
  subst h
  cases v with
  | array vs =>
    rw [fitTo]
    exact congrArg (mk x m) (if_pos eq_empty_of_mem_fitAll_nil)
  | _ => rfl

theorem getElem?_fitAll (ss : List Settings) (vs : List Value) (i : Nat) :
    (fitAll ss vs)[i]? = vs[i]?.map (ss.getD i {}).fitTo := by
  induction vs generalizing ss i with
  | nil => cases ss <;> rfl
  | cons v vs ih =>
    cases ss with
    | nil =>
      cases i with
      | zero => simp [fitAll, fitTo_of_elements_eq_nil]
      | succ i => simpa [fitAll] using ih [] i
    | cons s ss =>
      cases i with
      | zero => rfl
      | succ i => simpa [fitAll] using ih ss i

theorem fitAll_eq_self_iff (ss : List Settings) (vs : List Value) :
    fitAll ss vs = ss ↔ ss.length = vs.length ∧ ∀ p ∈ ss.zip vs, p.1.fitTo p.2 = p.1 := by
  induction vs generalizing ss with
  | nil => cases ss <;> simp [fitAll]
  | cons v vs ih =>
    cases ss with
    | nil => simp [fitAll]
    | cons s ss => simp [fitAll, ih, and_left_comm]

theorem fitTo_array (s : Settings) (vs : List Value) :
    s.fitTo (.array vs) =
      { s with elements :=
          if ∀ t ∈ fitAll s.elements vs, t = {} then [] else fitAll s.elements vs } := by
  rw [fitTo]

/-- Settings have the shape of a value exactly if fitting them to it does not change them. -/
theorem fits_iff (s : Settings) (v : Value) : s.Fits v ↔ s.fitTo v = s := by
  induction v using Value.forall_of_elements generalizing s with
  | h v ih =>
  obtain ⟨x, m, es⟩ := s
  constructor
  · intro h
    cases h with
    | plain h => exact fitTo_of_elements_eq_nil h v
    | @elements _ vs hl hf hn =>
      -- element by element nothing changes, so the list stays, and it is not dropped either
      have he : fitAll es vs = es :=
        (fitAll_eq_self_iff es vs).2 ⟨hl, fun p hp =>
          (ih vs rfl p.2 (List.of_mem_zip hp).2 p.1).1 (hf p hp)⟩
      have hs : ¬ ∀ t ∈ es, t = {} := fun h => by
        obtain ⟨t, ht, hne⟩ := hn
        exact hne (h t ht)
      rw [fitTo_array, he, if_neg hs]
  · intro h
    by_cases hes : es = []
    · exact .plain hes
    cases v with
    | array vs =>
      rw [fitTo_array, mk.injEq] at h
      have h := h.2.2
      split at h
      · exact absurd h.symm hes
      · rename_i hn
        rw [h] at hn
        obtain ⟨hl, hf⟩ := (fitAll_eq_self_iff es vs).1 h
        refine .elements hl (fun p hp => ?_) (by simpa using hn)
        exact (ih vs rfl p.2 (List.of_mem_zip hp).2 p.1).2 (hf p hp)
    | _ => exact .plain (congrArg Settings.elements h).symm

theorem fits_of_mem_zip_fitAll {vs : List Value} (h : ∀ v ∈ vs, ∀ s : Settings, (s.fitTo v).Fits v)
    (ss : List Settings) : ∀ p ∈ (fitAll ss vs).zip vs, p.1.Fits p.2 := by
  induction vs generalizing ss with
  | nil => simp
  | cons v vs ih =>
    rw [List.forall_mem_cons] at h
    cases ss with
    | nil => exact List.forall_mem_cons.2 ⟨.plain rfl, ih h.2 []⟩
    | cons s ss => exact List.forall_mem_cons.2 ⟨h.1 s, ih h.2 ss⟩

/-- Fitted settings have the shape of the value. -/
theorem fits_fitTo (s : Settings) (v : Value) : (s.fitTo v).Fits v := by
  induction v using Value.forall_of_elements generalizing s with
  | h v ih =>
  cases v with
  | array vs =>
    have hf := fits_of_mem_zip_fitAll (ih vs rfl) s.elements
    rw [fitTo_array]
    split
    · exact .plain rfl
    · rename_i hn
      exact .elements (length_fitAll ..) hf (by simpa using hn)
  | _ => exact .plain rfl

end Settings

/-! ## Values and their settings, written and read again -/

mutual

/-- The value with `f e` for each entity `e` that it holds, itself or in arrays. -/
def Value.mapEntities (f : Entity → Entity) : Value → Value
  | .entity e => .entity (f e)
  | .array vs => .array (Value.allMapEntities f vs)
  | .null => .null
  | .boolean b => .boolean b
  | .integer n => .integer n
  | .double d => .double d
  | .string s => .string s
  | .blob bs => .blob bs
  | .key k => .key k

/-- The same of the values of a list. -/
def Value.allMapEntities (f : Entity → Entity) : List Value → List Value
  | [] => []
  | v :: vs => v.mapEntities f :: Value.allMapEntities f vs

end

/-- The normal form of an entity: what is read from its message. -/
def Entity.normal (e : Entity) : Entity := Entity.ofWire e.toWire

theorem Value.mapEntities_array (f : Entity → Entity) (vs : List Value) :
    (Value.array vs).mapEntities f = .array (vs.map (Value.mapEntities f)) := by
  rw [Value.mapEntities]
  refine congrArg Value.array ?_
  induction vs with
  | nil => rfl
  | cons v vs ih => rw [Value.allMapEntities, ih, List.map_cons]

theorem Value.mapEntities_array_eq_self {f : Entity → Entity} {vs : List Value}
    (h : ∀ v ∈ vs, v.mapEntities f = v) : (Value.array vs).mapEntities f = .array vs := by
  rw [Value.mapEntities_array, List.map_congr_left h, List.map_id']

theorem Settings.fitAll_map {f : Entity → Entity} {vs : List Value}
    (h : ∀ v ∈ vs, ∀ s : Settings, s.fitTo (v.mapEntities f) = s.fitTo v) (ss : List Settings) :
    Settings.fitAll ss (vs.map (Value.mapEntities f)) = Settings.fitAll ss vs := by
  refine List.ext_getElem? fun i => ?_
  rw [Settings.getElem?_fitAll, Settings.getElem?_fitAll, List.getElem?_map, Option.map_map]
  exact Option.map_congr fun v hv => h v (List.mem_of_getElem? hv) (ss.getD i {})

/-- The shape of a value does not depend on what the entities in it are. -/
theorem Settings.fitTo_mapEntities (f : Entity → Entity) (s : Settings) (v : Value) :
    s.fitTo (v.mapEntities f) = s.fitTo v := by
  induction v using Value.forall_of_elements generalizing s with
  | h v ih =>
  cases v with
  | array vs =>
    rw [Value.mapEntities_array, Settings.fitTo_array, Settings.fitTo_array,
      Settings.fitAll_map (ih vs rfl)]
  | _ => rfl

theorem Value.map_ofWire_applyAll {vs : List Value}
    (h : ∀ v ∈ vs, ∀ s : Settings,
      Value.ofWire (s.apply v.toWire) = v.mapEntities Entity.normal) (ss : List Settings) :
    (Settings.applyAll ss (vs.map Value.toWire)).map Value.ofWire =
      vs.map (Value.mapEntities Entity.normal) := by
  refine List.ext_getElem? fun i => ?_
  rw [List.getElem?_map, Settings.getElem?_applyAll, List.getElem?_map, Option.map_map]
  exact Option.map_congr fun v hv => h v (List.mem_of_getElem? hv) (ss.getD i {})

/-- Settings do not change what value is read. -/
theorem Value.ofWire_apply_toWire (s : Settings) (v : Value) :
    Value.ofWire (s.apply v.toWire) = v.mapEntities Entity.normal := by
  induction v using Value.forall_of_elements generalizing s with
  | h v ih =>
  obtain ⟨x, m, es⟩ := s
  cases v with
  | array vs =>
    rw [Value.toWire_array, Value.mapEntities_array]
    simp only [Settings.apply, Value.ofWire, Value.allOfWire_eq_map,
      Value.map_ofWire_applyAll (ih vs rfl)]
  | entity e => simp only [Value.toWire, Settings.apply, Value.ofWire, Value.mapEntities]; rfl
  | key k => simp only [Value.toWire, Settings.apply, Value.ofWire, Value.mapEntities, Key.ofWire_toWire]
  | _ => rfl

theorem Settings.collapse_eq (es : List Settings) :
    Settings.collapse es = if ∀ t ∈ es, t = {} then [] else es := by
  unfold Settings.collapse
  simp only [List.all_eq_true, Settings.isEmpty_iff]

theorem Settings.map_ofWire_applyAll {vs : List Value}
    (h : ∀ v ∈ vs, ∀ s : Settings, Settings.ofWire (s.apply v.toWire) = s.fitTo v)
    (ss : List Settings) :
    (Settings.applyAll ss (vs.map Value.toWire)).map Settings.ofWire = Settings.fitAll ss vs := by
  refine List.ext_getElem? fun i => ?_
  rw [List.getElem?_map, Settings.getElem?_applyAll, Settings.getElem?_fitAll, Option.map_map]
  exact Option.map_congr fun v hv => h v (List.mem_of_getElem? hv) (ss.getD i {})

/-- The settings that are read are those that were written, fitted to the value. -/
theorem Settings.ofWire_apply_toWire (s : Settings) (v : Value) :
    Settings.ofWire (s.apply v.toWire) = s.fitTo v := by
  induction v using Value.forall_of_elements generalizing s with
  | h v ih =>
  obtain ⟨x, m, es⟩ := s
  cases v with
  | array vs =>
    rw [Value.toWire_array, Settings.fitTo_array]
    simp only [Settings.apply, Settings.ofWire, Settings.allOfWire_eq_map, Settings.collapse_eq,
      Settings.map_ofWire_applyAll (ih vs rfl)]
  | _ => rfl

/-! ## Entities, written and read again -/

theorem Entity.key_normal (e : Entity) : e.normal.key = e.key := by
  unfold Entity.normal
  rw [Entity.ofWire_eq, Entity.toWire_eq]
  cases e.key with
  | none => rfl
  | some k => simp [Key.ofWire_toWire]

theorem Entity.get?_normal (e : Entity) (n : String) :
    e.normal.get? n = (e.get? n).map (Value.mapEntities Entity.normal) := by
  unfold Entity.normal
  rw [Entity.get?_ofWire, Entity.find?_toWire, Option.map_map]
  exact congrArg (fun f => (e.get? n).map f)
    (funext fun v => Value.ofWire_apply_toWire ((e.settings? n).getD {}) v)

theorem Entity.settings?_normal (e : Entity) (n : String) :
    e.normal.settings? n =
      ((e.get? n).map ((e.settings? n).getD {}).fitTo).filter (· ≠ {}) := by
  unfold Entity.normal
  rw [Entity.settings?_ofWire, Entity.find?_toWire, Option.map_map]
  exact congrArg (fun f => ((e.get? n).map f).filter (· ≠ {}))
    (funext fun v => Settings.ofWire_apply_toWire ((e.settings? n).getD {}) v)

/-- The names of properties ascend, and so do those of settings. -/
structure Entity.MapsAscend (e : Entity) : Prop where
  properties : e.properties.Ascending
  settings : e.settings.Ascending

/-- The names of every map, at every depth, ascend. -/
def Value.Ordered (v : Value) : Prop := v.Throughout Entity.MapsAscend

/-- The names of every map, at every depth, ascend. -/
def Entity.Ordered (e : Entity) : Prop := e.Throughout Entity.MapsAscend

/-- Settings say something, and are those of a property whose value they have the shape of. -/
def Entity.SettingsFit (e : Entity) : Prop :=
  ∀ p ∈ e.settings.entries, p.2 ≠ {} ∧ ∃ v, e.get? p.1 = some v ∧ p.2.Fits v

/-- Settings fit at every depth. -/
def Entity.WellShaped (e : Entity) : Prop := e.Throughout Entity.SettingsFit

theorem Entity.mapsAscend_ofWire (w : Wire.Entity) : (Entity.ofWire w).MapsAscend := by
  rw [Entity.ofWire_eq]
  exact ⟨ascending_propertiesOfWire _, Settings.ascending_ofProperties _⟩

theorem Entity.settingsFit_normal (e : Entity) : e.normal.SettingsFit := by
  intro p hp
  have hs : e.normal.settings? p.1 = some p.2 :=
    NameMap.lookup_of_mem (Entity.mapsAscend_ofWire e.toWire).settings hp
  rw [Entity.settings?_normal, Option.filter_eq_some_iff, Option.map_eq_some_iff] at hs
  obtain ⟨⟨v, hv, hs⟩, hne⟩ := hs
  refine ⟨by simpa using hne, v.mapEntities Entity.normal, ?_, ?_⟩
  · rw [Entity.get?_normal, hv, Option.map_some]
  · rw [← hs, ← Settings.fitTo_mapEntities Entity.normal]
    exact Settings.fits_fitTo _ _

/-- Whatever holds of the normal forms of all entities holds throughout a normal form. -/
theorem Entity.throughout_normal {q : Entity → Prop} (h : ∀ e : Entity, q e.normal) (e : Entity) :
    e.normal.Throughout q := by
  have hc : Compositional (fun v => (v.mapEntities Entity.normal).Throughout q)
      (fun e => e.normal.Throughout q) := by
    refine ⟨fun v he ha => ?_, fun e hp => ?_⟩
    · cases v with
      | entity e => exact (Value.throughout_entity _).2 (he e rfl)
      | array vs =>
        rw [Value.mapEntities_array, Value.throughout_array]
        exact List.forall_mem_map.2 (ha vs rfl)
      | _ => trivial
    · -- what is found under a name of the normal form comes from a value of that name
      refine (Entity.throughout_iff _).2 ⟨h e, fun p hp' => ?_⟩
      have hv : e.normal.get? p.1 = some p.2 :=
        NameMap.lookup_of_mem (Entity.mapsAscend_ofWire e.toWire).properties hp'
      rw [Entity.get?_normal, Option.map_eq_some_iff] at hv
      obtain ⟨v, hv, hp'⟩ := hv
      rw [← hp']
      exact hp _ (NameMap.mem_of_find? hv)
  exact hc.forall_entity e

theorem Entity.ext {e f : Entity} (hk : e.key = f.key) (hp : e.properties = f.properties)
    (hs : e.settings = f.settings) : e = f := by
  cases e
  cases f
  subst hk hp hs
  rfl

/-- An entity whose settings fit is read back as it was, if its values are. -/
theorem Entity.normal_of_values {e : Entity} (ha : e.MapsAscend) (hfit : e.SettingsFit)
    (hv : ∀ p ∈ e.properties.entries, p.2.mapEntities Entity.normal = p.2) : e.normal = e := by
  obtain ⟨hp, hs⟩ := Entity.mapsAscend_ofWire e.toWire
  refine Entity.ext e.key_normal (hp.ext ha.properties fun n => ?_) (hs.ext ha.settings fun n => ?_)
  · refine (e.get?_normal n).trans ?_
    cases hn : e.get? n with
    | none => exact hn.symm
    | some v => exact (congrArg some (hv (n, v) (NameMap.mem_of_find? hn))).trans hn.symm
  · refine (e.settings?_normal n).trans ?_
    cases hn : e.settings? n with
    | none =>
      -- empty settings stay empty, whatever the value
      have he : ∀ v, (({} : Settings).fitTo v) = {} := Settings.fitTo_of_elements_eq_nil rfl
      cases e.get? n with
      | none => exact hn.symm
      | some v =>
        rw [Option.map_some, Option.getD_none, he, Option.filter_some, if_neg (by simp)]
        exact hn.symm
    | some s =>
      obtain ⟨hne, v, hv, hf⟩ := hfit (n, s) (NameMap.mem_of_find? hn)
      have he : s.fitTo v = s := (s.fits_iff v).1 hf
      rw [hv, Option.map_some, Option.getD_some, he, Option.filter_some,
        if_pos (by simpa using hne)]
      exact hn.symm

/-- An entity in normal form is read back as it was. -/
theorem Entity.normal_of_wellShaped {e : Entity} : e.Ordered → e.WellShaped → e.normal = e := by
  have hc : Compositional
      (fun v => v.Ordered → v.Throughout Entity.SettingsFit → v.mapEntities Entity.normal = v)
      (fun e => e.Ordered → e.WellShaped → e.normal = e) := by
    refine ⟨fun v he ha ho hw => ?_, fun e hp ho hw => ?_⟩
    · cases v with
      | entity e => exact congrArg Value.entity (he e rfl ho hw)
      | array vs =>
        rw [Value.Ordered, Value.throughout_array] at ho
        rw [Value.throughout_array] at hw
        exact Value.mapEntities_array_eq_self fun v hv => ha vs rfl v hv (ho v hv) (hw v hv)
      | _ => rfl
    · obtain ⟨ha, ho⟩ := (Entity.throughout_iff e).1 ho
      obtain ⟨hfit, hw⟩ := (Entity.throughout_iff e).1 hw
      exact Entity.normal_of_values ha hfit fun p h => hp p h (ho p h) (hw p h)
  exact hc.forall_entity e

theorem Entity.ordered_normal (e : Entity) : e.normal.Ordered :=
  Entity.throughout_normal (fun e => Entity.mapsAscend_ofWire e.toWire) e

theorem Entity.wellShaped_normal (e : Entity) : e.normal.WellShaped :=
  Entity.throughout_normal Entity.settingsFit_normal e

/-- What is in normal form stays as it is, and nothing else does. -/
theorem Entity.normal_eq_iff (e : Entity) : e.normal = e ↔ e.Ordered ∧ e.WellShaped := by
  constructor
  · intro h
    rw [← h]
    exact ⟨e.ordered_normal, e.wellShaped_normal⟩
  · rintro ⟨ho, hw⟩
    exact Entity.normal_of_wellShaped ho hw

theorem Entity.normal_normal (e : Entity) : e.normal.normal = e.normal :=
  Entity.normal_of_wellShaped e.ordered_normal e.wellShaped_normal

/-- **Writing an entity and reading it again normalises it.** The key and the names stay, and so do
the values, but for embedded entities, which are normalised in turn. Each property keeps its settings,
fitted to its value, unless nothing is left of them; all other settings are dropped. What is already
well-shaped stays as it is, and only that does: of the two conditions `Ordered` says no more than
that maps have their names in order. -/
theorem Entity.written_read_normalises (e : Entity) :
    e.normal.key = e.key ∧
    (∀ n, e.normal.get? n = (e.get? n).map (Value.mapEntities Entity.normal)) ∧
    (∀ n, e.normal.settings? n =
      ((e.get? n).map ((e.settings? n).getD {}).fitTo).filter (· ≠ {})) ∧
    e.normal.Ordered ∧ e.normal.normal = e.normal ∧
    (e.normal = e ↔ e.Ordered ∧ e.WellShaped) :=
  ⟨e.key_normal, e.get?_normal, e.settings?_normal, e.ordered_normal, e.normal_normal, e.normal_eq_iff⟩

/-! ## Values that survive -/

/-- Every entity in the value comes back unchanged from its message. -/
def Value.Settled (v : Value) : Prop := v.Throughout fun e => e.normal = e

/-- What comes back unchanged has only entities in it that come back unchanged. -/
theorem Value.settled_entity {e : Entity} (h : e.normal = e) : (Value.entity e).Settled := by
  rw [Settled, Value.throughout_entity, ← h]
  exact Entity.throughout_normal Entity.normal_normal e

theorem Value.mapEntities_of_settled {v : Value} (h : v.Settled) :
    v.mapEntities Entity.normal = v := by
  induction v using Value.forall_of_elements with
  | h v ih =>
  cases v with
  | entity e =>
    have he : e.normal = e := ((Entity.throughout_iff e).1 ((Value.throughout_entity e).1 h)).1
    exact congrArg Value.entity he
  | array vs =>
    have h := (Value.throughout_array vs).1 h
    exact Value.mapEntities_array_eq_self fun w hw => ih vs rfl w hw (h w hw)
  | _ => rfl

/-- A value comes back unchanged if the entities in it do. -/
theorem Value.ofWire_toWire {v : Value} (h : v.Settled) : Value.ofWire v.toWire = v := by
  have hv := Value.ofWire_apply_toWire {} v
  rwa [Settings.apply_empty, Value.mapEntities_of_settled h] at hv

end CloudData
