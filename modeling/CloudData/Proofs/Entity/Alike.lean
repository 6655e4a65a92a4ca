/-
Numerical equality of values and entities, and of their messages.

`NameMap.Ascending.forall₂_iff`: two maps in order have the same names with
related values, place by place, if what they have under each name is related.
`Settings.alike_apply`, `Entity.alike_toWire`: what is alike is written alike.
-/
import CloudData.Proofs.Entity.Conversion
import CloudData.Proofs.Entity.Induction
import Mathlib.Data.List.Forall2

namespace CloudData

/-! ## Maps with related values -/

namespace NameMap

variable {α β : Type} {R : α → β → Prop}

/-- The same name, with related values. -/
def EntryRel (R : α → β → Prop) (p : String × α) (q : String × β) : Prop := p.1 = q.1 ∧ R p.2 q.2

theorem rel_lookup {es : List (String × α)} {fs : List (String × β)}
    (h : List.Forall₂ (EntryRel R) es fs) (k : String) :
    Option.Rel R (es.lookup k) (fs.lookup k) := by
  induction h with
  | nil => exact .none
  | @cons p q es fs hpq _ ih =>
    obtain ⟨n, v⟩ := p
    obtain ⟨m, w⟩ := q
    obtain ⟨rfl, hvw⟩ := hpq
    rw [lookup_cons_ite, lookup_cons_ite]
    split
    · exact .some hvw
    · exact ih

theorem Ascending.names_eq {m : NameMap α} {n : NameMap β} (hm : m.Ascending) (hn : n.Ascending)
    (h : ∀ k, Option.Rel R (m.find? k) (n.find? k)) : m.names = n.names := by
  have hunit : m.mapValues (fun _ => ()) = n.mapValues fun _ => () := by
    refine (hm.mapValues _).ext (hn.mapValues _) fun k => ?_
    rw [find?_mapValues, find?_mapValues]
    have hk := h k
    generalize m.find? k = v, n.find? k = w at hk ⊢
    cases hk <;> rfl
  rw [← names_mapValues (fun _ => ()), hunit, names_mapValues]

theorem Ascending.forall₂_iff {m : NameMap α} {n : NameMap β} (hm : m.Ascending)
    (hn : n.Ascending) :
    List.Forall₂ (EntryRel R) m.entries n.entries ↔
      ∀ k, Option.Rel R (m.find? k) (n.find? k) := by
  refine ⟨rel_lookup, fun h => ?_⟩
  have hnames : List.Forall₂ (fun p q => p.1 = q.1) m.entries n.entries := by
    have := hm.names_eq hn h
    rwa [names, names, ← List.forall₂_eq_eq_eq, List.forall₂_map_left_iff,
      List.forall₂_map_right_iff] at this
  refine List.forall₂_iff_zip.2 ⟨hnames.length_eq, fun {p q} hpq => ?_⟩
  have hname : p.1 = q.1 := List.forall₂_zip hnames hpq
  have hk := h p.1
  rw [find?, lookup_of_mem hm (List.of_mem_zip hpq).1, hname, find?,
    lookup_of_mem hn (List.of_mem_zip hpq).2] at hk
  cases hk with
  | some hk => exact ⟨hname, hk⟩

end NameMap

/-! ## Place by place -/

theorem forall₂_imp_of_mem {α β : Type} {R S : α → β → Prop} {xs : List α} {ys : List β}
    (h : List.Forall₂ R xs ys) (himp : ∀ x ∈ xs, ∀ y, R x y → S x y) : List.Forall₂ S xs ys := by
  induction h with
  | nil => exact .nil
  | cons hxy _ ih =>
    rw [List.forall_mem_cons] at himp
    exact .cons (himp.1 _ hxy) (ih himp.2)

/-- Two values are alike. -/
def Value.Alike (v w : Value) : Prop := v.alike w = true

/-- Two messages are alike. -/
def Wire.Value.Alike (v w : Wire.Value) : Prop := v.alike w = true

theorem Value.allAlike_iff {vs ws : List Value} :
    Value.allAlike vs ws = true ↔ List.Forall₂ Value.Alike vs ws := by
  induction vs generalizing ws with
  | nil => cases ws <;> simp [Value.allAlike]
  | cons v vs ih => cases ws <;> simp [Value.allAlike, Value.Alike, ih]

theorem Value.propertiesAlike_iff {ps qs : List (String × Value)} :
    Value.propertiesAlike ps qs = true ↔ List.Forall₂ (NameMap.EntryRel Value.Alike) ps qs := by
  induction ps generalizing qs with
  | nil => cases qs <;> simp [Value.propertiesAlike]
  | cons p ps ih =>
    obtain ⟨n, v⟩ := p
    rcases qs with _ | ⟨⟨m, w⟩, qs⟩ <;>
      simp [Value.propertiesAlike, NameMap.EntryRel, Value.Alike, ih]

theorem Wire.Value.allAlike_iff {vs ws : List Wire.Value} :
    Wire.Value.allAlike vs ws = true ↔ List.Forall₂ Wire.Value.Alike vs ws := by
  induction vs generalizing ws with
  | nil => cases ws <;> simp [Wire.Value.allAlike]
  | cons v vs ih => cases ws <;> simp [Wire.Value.allAlike, Wire.Value.Alike, ih]

theorem Wire.Value.propertiesAlike_iff {ps qs : List (String × Wire.Value)} :
    Wire.Value.propertiesAlike ps qs = true ↔
      List.Forall₂ (NameMap.EntryRel Wire.Value.Alike) ps qs := by
  induction ps generalizing qs with
  | nil => cases qs <;> simp [Wire.Value.propertiesAlike]
  | cons p ps ih =>
    obtain ⟨n, v⟩ := p
    rcases qs with _ | ⟨⟨m, w⟩, qs⟩ <;>
      simp [Wire.Value.propertiesAlike, NameMap.EntryRel, Wire.Value.Alike, ih]

theorem Entity.alike_iff {e f : Entity} :
    e.alike f = true ↔ e.key = f.key ∧
      List.Forall₂ (NameMap.EntryRel Value.Alike) e.properties.entries f.properties.entries ∧
      e.settings = f.settings := by
  obtain ⟨k, ⟨ps⟩, ss⟩ := e
  obtain ⟨l, ⟨qs⟩, ts⟩ := f
  simp [Entity.alike, Value.propertiesAlike_iff, and_assoc]

theorem Wire.Value.alike_iff {v w : Wire.Value} :
    v.alike w = true ↔
      v.booleanValue = w.booleanValue ∧ v.integerValue = w.integerValue ∧
      Option.Rel (fun c d => c.alike d = true) v.doubleValue w.doubleValue ∧
      v.keyValue = w.keyValue ∧ v.stringValue = w.stringValue ∧ v.blobValue = w.blobValue ∧
      Option.Rel (fun e f => e.alike f = true) v.entityValue w.entityValue ∧
      Option.Rel (List.Forall₂ Wire.Value.Alike) v.arrayValue w.arrayValue ∧
      v.meaning = w.meaning ∧ v.excludeFromIndexes = w.excludeFromIndexes := by
  obtain ⟨b₁, i₁, d₁, k₁, s₁, x₁, e₁, a₁, m₁, o₁⟩ := v
  obtain ⟨b₂, i₂, d₂, k₂, s₂, x₂, e₂, a₂, m₂, o₂⟩ := w
  rw [Wire.Value.alike.eq_def]
  simp only [Bool.and_eq_true, beq_iff_eq, and_assoc]
  cases d₁ <;> cases d₂ <;> cases e₁ <;> cases e₂ <;> cases a₁ <;> cases a₂ <;>
    simp [Wire.Value.allAlike_iff]

theorem Wire.Entity.alike_iff {e f : Wire.Entity} :
    e.alike f = true ↔ e.key = f.key ∧
      List.Forall₂ (NameMap.EntryRel Wire.Value.Alike) e.properties.entries
        f.properties.entries := by
  obtain ⟨k, ⟨ps⟩⟩ := e
  obtain ⟨l, ⟨qs⟩⟩ := f
  simp [Wire.Entity.alike, Wire.Value.propertiesAlike_iff]

/-! ## Written alike -/

-- by the recursion of `apply`: settings and their elements are taken apart, not the values
mutual

/-- Settings are written into both of two messages in the same way. -/
theorem Settings.alike_apply : ∀ (s : Settings) {v w : Wire.Value},
    v.alike w = true → (s.apply v).alike (s.apply w) = true
  | ⟨x, m, es⟩, v, w, h => by
    obtain ⟨hb, hi, hd, hk, hs, hx, he, ha, -, -⟩ := Wire.Value.alike_iff.1 h
    refine Wire.Value.alike_iff.2 ⟨hb, hi, hd, hk, hs, hx, he, ?_, rfl, rfl⟩
    rw [Settings.arrayValue_apply, Settings.arrayValue_apply]
    generalize v.arrayValue = a, w.arrayValue = b at ha
    cases ha with
    | none => exact .none
    | some hvs => exact .some (Settings.forall₂_applyAll es hvs)

theorem Settings.forall₂_applyAll : ∀ (ss : List Settings) {vs ws : List Wire.Value},
    List.Forall₂ Wire.Value.Alike vs ws →
      List.Forall₂ Wire.Value.Alike (Settings.applyAll ss vs) (Settings.applyAll ss ws)
  | [], vs, ws, h => by rwa [Settings.applyAll_nil, Settings.applyAll_nil]
  | _ :: _, [], [], _ => .nil
  | s :: ss, _ :: _, _ :: _, .cons hv hvs =>
    .cons (s.alike_apply hv) (Settings.forall₂_applyAll ss hvs)

end

theorem Settings.alike_applyNamed (ss : NameMap Settings) (n : String) {v w : Wire.Value}
    (h : v.alike w = true) :
    (Settings.applyNamed ss n v).alike (Settings.applyNamed ss n w) = true := by
  unfold Settings.applyNamed
  cases ss.find? n with
  | none => exact h
  | some s => exact s.alike_apply h

/-- Values and entities that are alike have messages that are alike. -/
theorem compositional_alike :
    Compositional (fun v => ∀ w, v.Alike w → v.toWire.Alike w.toWire)
      (fun e => ∀ f, e.alike f = true → e.toWire.alike f.toWire = true) := by
  refine ⟨fun v he ha w h => ?_, fun e hp f h => ?_⟩
  · -- two values that are alike are of one kind
    cases v <;> cases w <;> simp only [Value.Alike, Value.alike, Bool.false_eq_true] at h
    case entity e f =>
      have hef := he e rfl f h
      simp [Wire.Value.Alike, Wire.Value.alike_iff, Value.toWire, hef]
    case array vs ws =>
      rw [Value.toWire_array, Value.toWire_array]
      refine Wire.Value.alike_iff.2 ⟨rfl, rfl, .none, rfl, rfl, rfl, .none, .some ?_, rfl, rfl⟩
      rw [List.forall₂_map_left_iff, List.forall₂_map_right_iff]
      exact forall₂_imp_of_mem (Value.allAlike_iff.1 h) (ha vs rfl)
    all_goals simp_all [Wire.Value.Alike, Wire.Value.alike_iff, Value.toWire]
  · obtain ⟨hkey, hprops, hsettings⟩ := Entity.alike_iff.1 h
    rw [Wire.Entity.alike_iff, Entity.toWire_eq, Entity.toWire_eq, hkey, hsettings,
      List.forall₂_map_left_iff, List.forall₂_map_right_iff]
    refine ⟨rfl, forall₂_imp_of_mem hprops fun p hmem q hpq => ⟨hpq.1, ?_⟩⟩
    rw [hpq.1]
    exact Settings.alike_applyNamed _ _ (hp p hmem q.2 hpq.2)

theorem Entity.alike_toWire {e f : Entity} (h : e.alike f = true) :
    e.toWire.alike f.toWire = true :=
  compositional_alike.forall_entity e f h

end CloudData
