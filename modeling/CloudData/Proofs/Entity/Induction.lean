/-
The one induction over values and entities together: through arrays, and through
the properties of embedded entities.

`Value.forall_of_elements`: the induction that stops at embedded entities.
`Value.Throughout`, `Entity.Throughout`: what holds of every entity at every depth.
-/
import CloudData.Entity.Basic

namespace CloudData

/-- Two properties that pass to every value and to every entity from what is right inside it. -/
structure Compositional (P : Value → Prop) (Q : Entity → Prop) : Prop where
  value : ∀ v, (∀ e, v = .entity e → Q e) → (∀ vs, v = .array vs → ∀ w ∈ vs, P w) → P v
  entity : ∀ e, (∀ p ∈ e.properties.entries, P p.2) → Q e

section
variable {P : Value → Prop} {Q : Entity → Prop}

mutual

theorem Compositional.forall_value (h : Compositional P Q) : ∀ v : Value, P v
  | .null | .boolean _ | .integer _ | .double _ | .string _ | .blob _ | .key _ =>
    h.value _ (fun _ he => by cases he) fun _ ha => by cases ha
  | .entity e =>
    h.value _ (fun _ he => Value.entity.inj he ▸ h.forall_entity e) fun _ ha => by cases ha
  | .array vs =>
    h.value _ (fun _ he => by cases he) fun _ ha => Value.array.inj ha ▸ h.forall_list vs

theorem Compositional.forall_entity (h : Compositional P Q) : ∀ e : Entity, Q e
  | ⟨_, ⟨ps⟩, _⟩ => h.entity _ (h.forall_properties ps)

theorem Compositional.forall_list (h : Compositional P Q) : ∀ vs : List Value, ∀ v ∈ vs, P v
  | [] => by simp
  | v :: vs => List.forall_mem_cons.2 ⟨h.forall_value v, h.forall_list vs⟩

theorem Compositional.forall_properties (h : Compositional P Q) :
    ∀ ps : List (String × Value), ∀ p ∈ ps, P p.2
  | [] => by simp
  | (_, v) :: ps => List.forall_mem_cons.2 ⟨h.forall_value v, h.forall_properties ps⟩

end

end

/-- A property of every value that passes to an array from its elements. -/
theorem Value.forall_of_elements {P : Value → Prop}
    (h : ∀ v, (∀ vs, v = .array vs → ∀ w ∈ vs, P w) → P v) (v : Value) : P v :=
  have hc : Compositional P fun _ => True := ⟨fun v _ => h v, fun _ _ => trivial⟩
  hc.forall_value v

/-! ## Every depth -/

mutual

/-- `q` holds of every entity in the value. -/
def Value.Throughout (q : Entity → Prop) : Value → Prop
  | .entity e => Entity.Throughout q e
  | .array vs => Value.AllThroughout q vs
  | .null | .boolean _ | .integer _ | .double _ | .string _ | .blob _ | .key _ => True

/-- `q` holds of the entity and of every entity in its properties. -/
def Entity.Throughout (q : Entity → Prop) : Entity → Prop
  | ⟨k, ⟨ps⟩, ss⟩ => q ⟨k, ⟨ps⟩, ss⟩ ∧ Value.PropertiesThroughout q ps

/-- The same of the values of a list. -/
def Value.AllThroughout (q : Entity → Prop) : List Value → Prop
  | [] => True
  | v :: vs => Value.Throughout q v ∧ Value.AllThroughout q vs

/-- The same of named values. -/
def Value.PropertiesThroughout (q : Entity → Prop) : List (String × Value) → Prop
  | [] => True
  | (_, v) :: ps => Value.Throughout q v ∧ Value.PropertiesThroughout q ps

end

section
variable {q : Entity → Prop}

theorem Value.propertiesThroughout_iff (ps : List (String × Value)) :
    Value.PropertiesThroughout q ps ↔ ∀ p ∈ ps, p.2.Throughout q := by
  induction ps with
  | nil => simp [Value.PropertiesThroughout]
  | cons p ps ih => rw [Value.PropertiesThroughout, ih, List.forall_mem_cons]

theorem Value.throughout_entity (e : Entity) : (Value.entity e).Throughout q ↔ e.Throughout q := by
  rw [Value.Throughout]

theorem Value.throughout_array (vs : List Value) :
    (Value.array vs).Throughout q ↔ ∀ v ∈ vs, v.Throughout q := by
  rw [Value.Throughout]
  induction vs with
  | nil => simp [Value.AllThroughout]
  | cons v vs ih => rw [Value.AllThroughout, ih, List.forall_mem_cons]

theorem Value.throughout_iff (v : Value) :
    v.Throughout q ↔ (∀ e, v = .entity e → e.Throughout q) ∧
      ∀ vs, v = .array vs → ∀ w ∈ vs, w.Throughout q := by
  cases v with
  | entity e => simp [Value.throughout_entity]
  | array vs => simp [Value.throughout_array]
  | _ => simp [Value.Throughout]

theorem Entity.throughout_iff (e : Entity) :
    e.Throughout q ↔ q e ∧ ∀ p ∈ e.properties.entries, p.2.Throughout q := by
  obtain ⟨k, ⟨ps⟩, ss⟩ := e
  rw [Entity.Throughout, Value.propertiesThroughout_iff]

end

theorem Entity.Throughout.mono {q r : Entity → Prop} {e : Entity} (hq : e.Throughout q)
    (h : ∀ e, q e → r e) : e.Throughout r := by
  have hc : Compositional (fun v => v.Throughout q → v.Throughout r)
      (fun e => e.Throughout q → e.Throughout r) := by
    refine ⟨fun v he ha hv => ?_, fun e hp he => ?_⟩
    · obtain ⟨hv, hvs⟩ := (Value.throughout_iff v).1 hv
      exact (Value.throughout_iff v).2
        ⟨fun e h => he e h (hv e h), fun vs h w hw => ha vs h w hw (hvs vs h w hw)⟩
    · obtain ⟨he, hvs⟩ := (Entity.throughout_iff e).1 he
      exact (Entity.throughout_iff e).2 ⟨h e he, fun p h => hp p h (hvs p h)⟩
  exact hc.forall_entity e hq

end CloudData
