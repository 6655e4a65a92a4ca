/-
Queries and the requests that carry them. A query whose values are settled can be
told from its request: which sort of query it is, where it goes, and what it asks.

`Binding.eq_of_toWire_eq`, `GqlQuery.eq_of_toWire_eq`,
`QuerySettings.eq_of_toWire_eq`: the same for the parts of a request.
`Query.populate_empty_inj`: equal requests are those of equal queries.
-/
import CloudData.Proofs.Query.Filter
import CloudData.Query.Request

namespace CloudData

/-! ## Queries in text -/

/-- Lists are equal if their images are, where the function tells their items apart. -/
theorem eq_of_map_eq {α β : Type} {f : α → β} {xs ys : List α}
    (h : ∀ x ∈ xs, ∀ y ∈ ys, f x = f y → x = y) (he : xs.map f = ys.map f) : xs = ys := by
  induction xs generalizing ys with
  | nil =>
    rw [List.map_nil, eq_comm, List.map_eq_nil_iff] at he
    exact he.symm
  | cons x xs ih =>
    cases ys with
    | nil => cases he
    | cons y ys =>
      rw [List.map_cons, List.map_cons, List.cons.injEq] at he
      have hx : x = y := h x (by simp) y (by simp) he.1
      have hxs : xs = ys :=
        ih (fun a ha b hb => h a (List.mem_cons_of_mem _ ha) b (List.mem_cons_of_mem _ hb)) he.2
      rw [hx, hxs]

/-- `p` holds of the value that is bound, if it is a value. -/
def Binding.Throughout (p : Value → Prop) : Binding → Prop
  | .value v => p v
  | .cursor _ => True

theorem Binding.eq_of_toWire_eq {b d : Binding} (hb : b.Throughout Value.Settled)
    (hd : d.Throughout Value.Settled) (h : b.toWire = d.toWire) : b = d := by
  cases b with
  | value v =>
    cases d with
    | value w =>
      simp only [toWire, Wire.GqlQueryParameter.mk.injEq, Option.some.injEq, and_true] at h
      rw [Value.eq_of_toWire_eq hb hd h]
    | cursor c => simp [toWire] at h
  | cursor c =>
    cases d with
    | value w => simp [toWire] at h
    | cursor c' =>
      simp only [toWire, Wire.GqlQueryParameter.mk.injEq, Option.some.injEq, true_and] at h
      exact congrArg Binding.cursor (congrArg Cursor.mk h)

theorem NameMap.eq_of_mapValues_eq {α β : Type} {f : α → β} {m n : NameMap α}
    (h : ∀ d ∈ m.entries, ∀ e ∈ n.entries, f d.2 = f e.2 → d.2 = e.2)
    (he : m.mapValues f = n.mapValues f) : m = n := by
  refine congrArg NameMap.mk (eq_of_map_eq (fun d hd e he hde => ?_) (congrArg entries he))
  rw [Prod.mk.injEq] at hde
  exact Prod.ext hde.1 (h d hd e he hde.2)

namespace GqlQuery

variable {k : ResultKind}

/-- `p` holds of every value that is bound, by name or by position. -/
def Throughout (p : Value → Prop) (q : GqlQuery k) : Prop :=
  (∀ e ∈ q.named.entries, e.2.Throughout p) ∧ ∀ b ∈ q.positional, b.Throughout p

theorem eq_of_toWire_eq {q r : GqlQuery k} (hq : q.Throughout Value.Settled)
    (hr : r.Throughout Value.Settled) (hn : q.namespaceId = r.namespaceId)
    (h : q.toWire = r.toWire) : q = r := by
  obtain ⟨s, ns, lit, named, positional⟩ := q
  obtain ⟨s', ns', lit', named', positional'⟩ := r
  simp only [toWire, Wire.GqlQuery.mk.injEq, Option.some.injEq] at h
  obtain ⟨hs, hlit, hnamed, hpositional⟩ := h
  have hnamed : named = named' := NameMap.eq_of_mapValues_eq
    (fun d hd e he => Binding.eq_of_toWire_eq (hq.1 d hd) (hr.1 e he)) hnamed
  have hpositional : positional = positional' := eq_of_map_eq
    (fun b hb c hc => Binding.eq_of_toWire_eq (hq.2 b hb) (hr.2 c hc)) hpositional
  subst hs hn hlit hnamed hpositional
  rfl

end GqlQuery

/-! ## Structured queries -/

theorem Direction.toWire_inj {d e : Direction} : d.toWire = e.toWire ↔ d = e := by
  cases d <;> cases e <;> decide

theorem OrderBy.toWire_inj {o p : OrderBy} : o.toWire = p.toWire ↔ o = p := by
  obtain ⟨n, d⟩ := o
  obtain ⟨m, e⟩ := p
  simp [toWire, Direction.toWire_inj]

namespace QuerySettings

/-- `p` holds of every value in the filter, if there is one. -/
def Throughout (p : Value → Prop) (s : QuerySettings) : Prop := ∀ f ∈ s.filter, f.Throughout p

/-- No kind and one kind are told apart as lists of none and of one. -/
theorem kind_eq_of_toWire_eq {k l : Option String}
    (h : (k.toList.map fun n => (⟨n⟩ : Wire.KindExpression)) = l.toList.map fun n => ⟨n⟩) :
    k = l := by
  cases k <;> cases l <;> simp_all

/-- Zero is the only offset that is left out. -/
theorem offset_eq_of_toWire_eq {m n : Int32}
    (h : (if m = 0 then none else some m) = if n = 0 then none else some n) : m = n := by
  split at h
  · rename_i hm
    split at h
    · rename_i hn
      rw [hm, hn]
    · cases h
  · split at h
    · cases h
    · exact Option.some.inj h

theorem filter_eq_of_toWire_eq {f g : Option Filter} (hf : ∀ a ∈ f, a.Throughout Value.Settled)
    (hg : ∀ b ∈ g, b.Throughout Value.Settled) (h : f.map Filter.toWire = g.map Filter.toWire) :
    f = g := by
  cases f with
  | none => exact (Option.map_eq_none_iff.1 h.symm).symm
  | some f =>
    cases g with
    | none => cases h
    | some g =>
      exact congrArg some (Filter.eq_of_toWire_eq (hf f rfl) (hg g rfl) (Option.some.inj h))

theorem eq_of_toWire_eq {s t : QuerySettings} (hs : s.Throughout Value.Settled)
    (ht : t.Throughout Value.Settled) (hn : s.namespaceId = t.namespaceId)
    (h : s.toWire = t.toWire) : s = t := by
  have hc : ∀ {c d : Option Cursor}, c.map Cursor.bytes = d.map Cursor.bytes → c = d :=
    fun h => (Option.map_inj_right fun _ _ h => congrArg Cursor.mk h).1 h
  obtain ⟨ns, kind, projection, distinct, filter, order, start, stop, offset, limit⟩ := s
  obtain ⟨ns', kind', projection', distinct', filter', order', start', stop', offset', limit'⟩ := t
  simp only [toWire, Wire.Query.mk.injEq] at h
  obtain ⟨hprojection, hkind, hfilter, horder, hdistinct, hstart, hstop, hoffset, hlimit⟩ := h
  have hprojection : projection = projection' :=
    (List.map_inj_right fun p q hpq => by simpa using hpq).1 hprojection
  have hkind : kind = kind' := kind_eq_of_toWire_eq hkind
  have hfilter : filter = filter' := filter_eq_of_toWire_eq hs ht hfilter
  have horder : order = order' := (List.map_inj_right fun _ _ => OrderBy.toWire_inj.1).1 horder
  have hdistinct : distinct = distinct' :=
    (List.map_inj_right fun p q hpq => by simpa using hpq).1 hdistinct
  have hstart : start = start' := hc hstart
  have hstop : stop = stop' := hc hstop
  have hoffset : offset = offset' := offset_eq_of_toWire_eq hoffset
  subst hn hprojection hkind hfilter horder hdistinct hstart hstop hoffset hlimit
  rfl

end QuerySettings

/-! ## Requests -/

namespace Query

variable {k : ResultKind}

/-- `p` holds of every value in the query, in its filter or in its bindings. -/
def Throughout (p : Value → Prop) : Query k → Prop
  | .gql q => q.Throughout p
  | .structured q => q.settings.Throughout p

/-- A request that had no partition shows the namespace of its query. -/
theorem placed_none_inj {m n : Option String} : placed m none = placed n none ↔ m = n := by
  cases m <;> cases n <;> simp [placed]

theorem partitionId_populate (q : Query k) (r : Wire.RunQueryRequest) :
    (q.populate r).partitionId = placed q.namespaceId r.partitionId := by
  cases q <;> rfl

/-- **Different queries never make the same request.** Two queries for results of one kind, in text
or structured, are equal as soon as the requests are that they make of an empty one, provided that
each entity among their values is one that comes back unchanged from its message. -/
theorem populate_empty_inj {q r : Query k} (hq : q.Throughout Value.Settled)
    (hr : r.Throughout Value.Settled) : q.populate {} = r.populate {} ↔ q = r := by
  refine ⟨fun h => ?_, fun h => by rw [h]⟩
  have hn : q.namespaceId = r.namespaceId := by
    have hp := congrArg Wire.RunQueryRequest.partitionId h
    rw [partitionId_populate, partitionId_populate] at hp
    exact placed_none_inj.1 hp
  cases q with
  | gql q =>
    cases r with
    | gql r =>
      have hw : q.toWire = r.toWire := Option.some.inj (congrArg Wire.RunQueryRequest.gqlQuery h)
      rw [GqlQuery.eq_of_toWire_eq hq hr hn hw]
    | structured r => cases congrArg Wire.RunQueryRequest.gqlQuery h
  | structured q =>
    cases r with
    | gql r => cases congrArg Wire.RunQueryRequest.gqlQuery h
    | structured r =>
      have hw : q.settings.toWire = r.settings.toWire :=
        Option.some.inj (congrArg Wire.RunQueryRequest.query h)
      obtain ⟨s, _⟩ := q
      obtain ⟨t, _⟩ := r
      have hst : s = t := QuerySettings.eq_of_toWire_eq hq hr hn hw
      subst hst
      rfl

/-- Two filters on an embedded entity with settings, which differ in how they are joined. -/
theorem populate_empty_joined :
    let e : Entity :=
      { properties := ⟨[("note", .null)]⟩
        settings := ⟨[("note", { excludeFromIndexes := some true })]⟩ }
    let joined (o : CompositeOperator) : QuerySettings :=
      { filter := some (.composite o [.property "task" .equal (.array [.entity e])]) }
    let q : Query .entity := .structured ⟨joined .and, joined .and, rfl, rfl⟩
    let r : Query .entity := .structured ⟨joined .or, joined .or, rfl, rfl⟩
    q.Throughout Value.Settled ∧ r.Throughout Value.Settled ∧ q.populate {} ≠ r.populate {} := by
  intro e joined q r
  have he : (Value.array [.entity e]).Settled := by
    have hn : e.normal = e := rfl
    refine (Value.throughout_array _).2 fun v hv => ?_
    rw [List.mem_singleton.1 hv, Value.throughout_entity, Entity.throughout_iff]
    exact ⟨hn, by simp [e, Value.Throughout]⟩
  have hj (o : CompositeOperator) : (joined o).Throughout Value.Settled := by
    intro f hf
    cases hf
    refine (Filter.throughout_composite _ _).2 fun g hg => ?_
    rw [List.mem_singleton.1 hg]
    exact he
  refine ⟨hj .and, hj .or, fun h => ?_⟩
  have hqr : q = r := (populate_empty_inj (q := q) (r := r) (hj .and) (hj .or)).1 h
  simp [q, r, joined] at hqr

end Query

end CloudData
