/-
What holds at every depth of a message: of every value, those in arrays and in
embedded entities included, and of every entity.

`Compositional`: the one induction over values and entities together.
`Value.throughout_iff`, `Entity.throughout_iff`: the step from a message to its
parts.
-/
import CloudData.Wire.Entity

namespace CloudData.Wire

/-! ## Induction -/

/-- Two properties that pass to every value and to every entity from what is right inside it. -/
structure Compositional (P : Value → Prop) (Q : Entity → Prop) : Prop where
  value : ∀ v, (∀ e ∈ v.entityValue, Q e) → (∀ vs ∈ v.arrayValue, ∀ w ∈ vs, P w) → P v
  entity : ∀ e, (∀ p ∈ e.properties.entries, P p.2) → Q e

section
variable {P : Value → Prop} {Q : Entity → Prop}

mutual

theorem Compositional.forall_value (h : Compositional P Q) : ∀ v : Value, P v
  | ⟨_, _, _, _, _, _, none, none, _, _⟩ => h.value _ (by simp) (by simp)
  | ⟨_, _, _, _, _, _, some e, none, _, _⟩ =>
    h.value _ (by simpa using h.forall_entity e) (by simp)
  | ⟨_, _, _, _, _, _, none, some vs, _, _⟩ =>
    h.value _ (by simp) (by simpa using h.forall_list vs)
  | ⟨_, _, _, _, _, _, some e, some vs, _, _⟩ =>
    h.value _ (by simpa using h.forall_entity e) (by simpa using h.forall_list vs)

theorem Compositional.forall_entity (h : Compositional P Q) : ∀ e : Entity, Q e
  | ⟨_, ⟨ps⟩⟩ => h.entity _ (h.forall_properties ps)

theorem Compositional.forall_list (h : Compositional P Q) : ∀ vs : List Value, ∀ v ∈ vs, P v
  | [] => by simp
  | v :: vs => List.forall_mem_cons.2 ⟨h.forall_value v, h.forall_list vs⟩

theorem Compositional.forall_properties (h : Compositional P Q) :
    ∀ ps : List (String × Value), ∀ p ∈ ps, P p.2
  | [] => by simp
  | (_, v) :: ps => List.forall_mem_cons.2 ⟨h.forall_value v, h.forall_properties ps⟩

end

end

/-! ## Every depth -/

mutual

/-- `p` holds of the value and of every value inside it, `q` of every entity inside it. -/
def Value.Throughout (p : Value → Prop) (q : Entity → Prop) : Value → Prop
  | ⟨b, i, d, k, s, x, e, a, m, o⟩ =>
    p ⟨b, i, d, k, s, x, e, a, m, o⟩ ∧
    (match e with
      | some e => Entity.Throughout p q e
      | none => True) ∧
    (match a with
      | some vs => Value.AllThroughout p q vs
      | none => True)

/-- `q` holds of the entity and of every entity inside it, `p` of every value inside it. -/
def Entity.Throughout (p : Value → Prop) (q : Entity → Prop) : Entity → Prop
  | ⟨k, ⟨ps⟩⟩ => q ⟨k, ⟨ps⟩⟩ ∧ Value.PropertiesThroughout p q ps

/-- The same of the values of a list. -/
def Value.AllThroughout (p : Value → Prop) (q : Entity → Prop) : List Value → Prop
  | [] => True
  | v :: vs => Value.Throughout p q v ∧ Value.AllThroughout p q vs

/-- The same of named values. -/
def Value.PropertiesThroughout (p : Value → Prop) (q : Entity → Prop) :
    List (String × Value) → Prop
  | [] => True
  | (_, v) :: ps => Value.Throughout p q v ∧ Value.PropertiesThroughout p q ps

end

section
variable {p : Value → Prop} {q : Entity → Prop}

theorem Value.allThroughout_iff (vs : List Value) :
    Value.AllThroughout p q vs ↔ ∀ v ∈ vs, v.Throughout p q := by
  induction vs with
  | nil => simp [Value.AllThroughout]
  | cons v vs ih => simp [Value.AllThroughout, ih]

theorem Value.propertiesThroughout_iff (ps : List (String × Value)) :
    Value.PropertiesThroughout p q ps ↔ ∀ x ∈ ps, x.2.Throughout p q := by
  induction ps with
  | nil => simp [Value.PropertiesThroughout]
  | cons x ps ih => rw [Value.PropertiesThroughout, ih, List.forall_mem_cons]

theorem Value.throughout_iff (v : Value) :
    v.Throughout p q ↔ p v ∧ (∀ e ∈ v.entityValue, e.Throughout p q) ∧
      ∀ vs ∈ v.arrayValue, ∀ w ∈ vs, w.Throughout p q := by
  obtain ⟨b, i, d, k, s, x, e, a, m, o⟩ := v
  cases e <;> cases a <;> simp [Value.Throughout, Value.allThroughout_iff]

theorem Entity.throughout_iff (e : Entity) :
    e.Throughout p q ↔ q e ∧ ∀ x ∈ e.properties.entries, x.2.Throughout p q := by
  obtain ⟨k, ⟨ps⟩⟩ := e
  rw [Entity.Throughout, Value.propertiesThroughout_iff]

end

end CloudData.Wire
