/-
Filters of any depth and width and their messages, node for node.

`Filter.Mirrors`: the message has the nodes of the filter, each as a message of its
sort. `Filter.mirrors_toWire`: the message that a filter is written as has them.
-/
import CloudData.Proofs.Query.Filter
import Mathlib.Data.List.Forall2

namespace CloudData

/-- A name as codes have it: in capitals, with a line between its words. -/
def codeName (s : String) : String :=
  .ofList ((s.toList.flatMap fun c => if c.isUpper then ['_', c] else [c.toUpper]).drop 1)

theorem PropertyOperator.name_toWire (o : PropertyOperator) :
    Wire.NameSet.name o.toWire = codeName o.name := by
  cases o <;> rfl

theorem CompositeOperator.name_toWire (o : CompositeOperator) :
    Wire.NameSet.name o.toWire = codeName o.name := by
  cases o <;> rfl

theorem PropertyOperator.toWire_injective : Function.Injective toWire := by
  intro o p h
  have hop : some o = some p := by rw [← ofWire?_toWire o, h, ofWire?_toWire p]
  exact Option.some.inj hop

theorem PropertyOperator.toWire_ne_unspecified (o : PropertyOperator) : o.toWire ≠ .unspecified := by
  cases o <;> decide

namespace Filter

/-- The message has the nodes of the filter. A comparison has its own field set and not the other, and
in it the name of the property, the operator of the same name, and a value, which is read back as the
one that was there if the entities in that come back unchanged. Joined filters have their own field
set and not the other, and in it the operator of the same name and the nodes of every part, in order. -/
inductive Mirrors : Filter → Wire.Filter → Prop
  | property {n o v w p x} (alone : w.compositeFilter = none) (field : w.propertyFilter = some p)
      (name : p.property.name = n) (op : Wire.NameSet.name p.op = codeName o.name)
      (value : p.value = some x) (back : v.Settled → Value.ofWire x = v) :
      Mirrors (.property n o v) w
  | composite {o fs w c} (alone : w.propertyFilter = none) (field : w.compositeFilter = some c)
      (op : Wire.NameSet.name c.op = codeName o.name) (parts : List.Forall₂ Mirrors fs c.filters) :
      Mirrors (.composite o fs) w

theorem mirrors_toWire (f : Filter) : f.Mirrors f.toWire := by
  induction f using forall_of_parts with
  | hp n o v => exact .property rfl rfl rfl o.name_toWire rfl Value.ofWire_toWire
  | hc o fs ih =>
    have hparts : List.Forall₂ Mirrors fs (fs.map toWire) :=
      List.forall₂_map_right_iff.2 (List.forall₂_same.2 ih)
    rw [toWire_composite]
    exact .composite rfl rfl o.name_toWire hparts

/-- **Filters reach their messages node for node.** Whatever its depth and width, a filter is written
as a message that has its nodes and no others; no two operators on properties are written alike, and
none as the code that stands for no operator. So the filter is read back from its message, if each
entity among its values comes back unchanged. -/
theorem toWire_node_for_node (f : Filter) :
    f.Mirrors f.toWire ∧ Function.Injective PropertyOperator.toWire ∧
      (∀ o : PropertyOperator, o.toWire ≠ .unspecified) ∧
      (f.Throughout Value.Settled → ofWire? f.toWire = some f) :=
  ⟨mirrors_toWire f, PropertyOperator.toWire_injective, PropertyOperator.toWire_ne_unspecified,
    ofWire?_toWire⟩

/-- A comparison with an embedded entity whose property has settings, joined with joined filters that
are none. -/
theorem toWire_node_for_node_joined :
    let e : Entity :=
      { properties := ⟨[("note", .null)]⟩
        settings := ⟨[("note", { excludeFromIndexes := some true })]⟩ }
    let f : Filter := .composite .or [.property "task" .equal (.entity e), .composite .and []]
    f.Throughout Value.Settled ∧ f.Mirrors f.toWire ∧ ofWire? f.toWire = some f := by
  intro e f
  have he : e.normal = e := rfl
  have hf : f.Throughout Value.Settled := by
    have hnone : (composite .and []).Throughout Value.Settled := (throughout_composite _ _).2 nofun
    refine (throughout_composite _ _).2 (List.forall_mem_cons.2 ⟨Value.settled_entity he, ?_⟩)
    exact List.forall_mem_singleton.2 hnone
  obtain ⟨hm, -, -, hr⟩ := toWire_node_for_node f
  exact ⟨hf, hm, hr hf⟩

end Filter

end CloudData
