/-
Filters and their messages. A filter whose values are settled is read back from its
message, so different ones have different messages: `Filter.ofWire?_toWire`,
`Filter.eq_of_toWire_eq`.
-/
import CloudData.Proofs.Entity.Normal
import CloudData.Query.Filter

namespace CloudData

/-- Settled values can be told from their messages. -/
theorem Value.eq_of_toWire_eq {v w : Value} (hv : v.Settled) (hw : w.Settled)
    (h : v.toWire = w.toWire) : v = w := by
  rw [← Value.ofWire_toWire hv, h, Value.ofWire_toWire hw]

/-! ## Operators -/

/-- The operators of filters on properties. -/
def PropertyOperator.all : List PropertyOperator :=
  [.lessThan, .lessThanOrEqual, .greaterThan, .greaterThanOrEqual, .equal, .notEqual, .isIn, .notIn,
    .hasAncestor]

/-- The operator of a message, if it is one of a filter. -/
def PropertyOperator.ofWire? (w : Wire.PropertyOperator) : Option PropertyOperator :=
  all.find? (·.toWire = w)

theorem PropertyOperator.ofWire?_toWire (o : PropertyOperator) : ofWire? o.toWire = some o := by
  cases o <;> rfl

/-- The operator of a message, if it is one of a filter. -/
def CompositeOperator.ofWire? (w : Wire.CompositeOperator) : Option CompositeOperator :=
  [.and, .or].find? (·.toWire = w)

theorem CompositeOperator.ofWire?_toWire (o : CompositeOperator) : ofWire? o.toWire = some o := by
  cases o <;> rfl

namespace Filter

/-! ## Every value of a filter -/

mutual

/-- `p` holds of every value that the filter compares a property with. -/
def Throughout (p : Value → Prop) : Filter → Prop
  | .property _ _ v => p v
  | .composite _ fs => AllThroughout p fs

/-- The same of the filters of a list. -/
def AllThroughout (p : Value → Prop) : List Filter → Prop
  | [] => True
  | f :: fs => Throughout p f ∧ AllThroughout p fs

end

theorem throughout_composite {p : Value → Prop} (o : CompositeOperator) (fs : List Filter) :
    (composite o fs).Throughout p ↔ ∀ f ∈ fs, f.Throughout p := by
  rw [Throughout]
  induction fs with
  | nil => simp [AllThroughout]
  | cons f fs ih => rw [AllThroughout, ih, List.forall_mem_cons]

section
variable {P : Filter → Prop}

mutual

/-- A property of every filter that passes to a composite one from its parts. -/
theorem forall_of_parts (hp : ∀ n o v, P (.property n o v))
    (hc : ∀ o fs, (∀ f ∈ fs, P f) → P (.composite o fs)) : ∀ f, P f
  | .property n o v => hp n o v
  | .composite o fs => hc o fs (forall_of_parts_list hp hc fs)

theorem forall_of_parts_list (hp : ∀ n o v, P (.property n o v))
    (hc : ∀ o fs, (∀ f ∈ fs, P f) → P (.composite o fs)) : ∀ fs : List Filter, ∀ f ∈ fs, P f
  | [] => by simp
  | f :: fs => List.forall_mem_cons.2 ⟨forall_of_parts hp hc f, forall_of_parts_list hp hc fs⟩

end

end

/-! ## Messages -/

theorem toWire_composite (o : CompositeOperator) (fs : List Filter) :
    (composite o fs).toWire =
      { compositeFilter := some { op := o.toWire, filters := fs.map toWire } } := by
  have h : allToWire fs = fs.map toWire := by
    induction fs with
    | nil => rfl
    | cons f fs ih => rw [allToWire, ih, List.map_cons]
  rw [toWire, h]

mutual

/-- The filter of a message, if the message is one of a filter: just one of its fields is set. -/
def ofWire? : Wire.Filter → Option Filter
  | ⟨none, some p⟩ => do
    return .property p.property.name (← PropertyOperator.ofWire? p.op) (Value.ofWire (← p.value))
  | ⟨some c, none⟩ => compositeOfWire? c
  | _ => none

/-- The filter of the message of filters that are joined. -/
def compositeOfWire? : Wire.CompositeFilter → Option Filter
  | ⟨o, ws⟩ => do return .composite (← CompositeOperator.ofWire? o) (← allOfWire? ws)

/-- The filters of a list. -/
def allOfWire? : List Wire.Filter → Option (List Filter)
  | [] => some []
  | w :: ws => do return (← ofWire? w) :: (← allOfWire? ws)

end

theorem allOfWire?_map_toWire {fs : List Filter} (h : ∀ f ∈ fs, ofWire? f.toWire = some f) :
    allOfWire? (fs.map toWire) = some fs := by
  induction fs with
  | nil => rfl
  | cons f fs ih =>
    obtain ⟨hf, hfs⟩ := List.forall_mem_cons.1 h
    rw [List.map_cons, allOfWire?, hf, ih hfs]
    rfl

/-- A filter whose values are settled is read back from its message. -/
theorem ofWire?_toWire {f : Filter} (hf : f.Throughout Value.Settled) :
    ofWire? f.toWire = some f := by
  induction f using forall_of_parts with
  | hp n o v =>
    have hv : Value.ofWire v.toWire = v := Value.ofWire_toWire hf
    simp [toWire, ofWire?, PropertyOperator.ofWire?_toWire, hv]
  | hc o fs ih =>
    rw [throughout_composite] at hf
    have hfs : allOfWire? (fs.map toWire) = some fs :=
      allOfWire?_map_toWire fun f hm => ih f hm (hf f hm)
    simp [toWire_composite, ofWire?, compositeOfWire?, CompositeOperator.ofWire?_toWire, hfs]

theorem eq_of_toWire_eq {f g : Filter} (hf : f.Throughout Value.Settled)
    (hg : g.Throughout Value.Settled) (h : f.toWire = g.toWire) : f = g := by
  have hfg : some f = some g := by rw [← ofWire?_toWire hf, h, ofWire?_toWire hg]
  exact Option.some.inj hfg

end Filter

end CloudData
