/-
Filters in JSON. A filter that was written can be read, and is the same one if the
values in it are faithful. Whatever was read is.
-/
import CloudData.Proofs.Wire.Entity

namespace CloudData.Wire

open Json

/-! ## Filters on properties -/

/-- What there is of the value is faithful. -/
def PropertyFilter.Faithful (f : PropertyFilter) : Prop := ∀ v ∈ f.value, v.Faithful

namespace PropertyFilter

theorem toJson_ne_null (f : PropertyFilter) : f.toJson ≠ .null := nofun

theorem restored (f : PropertyFilter) : Restored (ofJson f.toJson) f.Faithful f := by
  obtain ⟨v, hv, hv'⟩ := Restored.reread (o := f.value) Value.toJson_ne_null fun v _ => v.restored
  refine ⟨{ f with value := v }, ?_, fun h => ?_⟩
  · exact readRecord_of_reads (.cons (PropertyReference.lossless.member fun _ => rfl)
      (.cons (NameSet.lossless.member fun _ => rfl) (.optional hv (fun _ => rfl) rfl))) rfl
  · rw [hv' h]

theorem faithful_of_ofJson {j : Json} {f : PropertyFilter} (h : ofJson j = .ok f) : f.Faithful := by
  refine readRecord_invariant (P := Faithful) (fun v h => by cases h) (fun n x hx a b ha hb => ?_) h
  split at hb
  · obtain ⟨r, -, rfl⟩ := of_map_ok hb
    exact ha
  · obtain ⟨op, -, rfl⟩ := of_map_ok hb
    exact ha
  · obtain ⟨v, hv, rfl⟩ := of_map_ok hb
    exact fun v h => Value.faithful_of_ofJson x (of_readOption hv v h)
  · cases hb
    exact ha

end PropertyFilter

/-! ## Filters of either kind -/

/-- Two properties that pass to every filter and every composite filter from what is right inside. -/
structure FilterCompositional (P : Filter → Prop) (Q : CompositeFilter → Prop) : Prop where
  filter : ∀ f, (∀ c ∈ f.compositeFilter, Q c) → P f
  composite : ∀ c, (∀ f ∈ c.filters, P f) → Q c

section
variable {P : Filter → Prop} {Q : CompositeFilter → Prop}

mutual

theorem FilterCompositional.forall_filter (h : FilterCompositional P Q) : ∀ f : Filter, P f
  | ⟨none, _⟩ => h.filter _ (by simp)
  | ⟨some c, _⟩ => h.filter _ (by simpa using h.forall_composite c)

theorem FilterCompositional.forall_composite (h : FilterCompositional P Q) :
    ∀ c : CompositeFilter, Q c
  | ⟨_, fs⟩ => h.composite _ (h.forall_list fs)

theorem FilterCompositional.forall_list (h : FilterCompositional P Q) :
    ∀ fs : List Filter, ∀ f ∈ fs, P f
  | [] => by simp
  | f :: fs => List.forall_mem_cons.2 ⟨h.forall_filter f, h.forall_list fs⟩

end

end

mutual

/-- The filters on properties in it, at every depth, are faithful. -/
def Filter.Faithful : Filter → Prop
  | ⟨c, p⟩ =>
    (match c with
      | some c => CompositeFilter.Faithful c
      | none => True) ∧
    ∀ f ∈ p, f.Faithful

/-- The filters on properties in it, at every depth, are faithful. -/
def CompositeFilter.Faithful : CompositeFilter → Prop
  | ⟨_, fs⟩ => Filter.AllFaithful fs

/-- The same of the filters of a list. -/
def Filter.AllFaithful : List Filter → Prop
  | [] => True
  | f :: fs => Filter.Faithful f ∧ Filter.AllFaithful fs

end

theorem Filter.allFaithful_iff (fs : List Filter) : Filter.AllFaithful fs ↔ ∀ f ∈ fs, f.Faithful := by
  induction fs with
  | nil => simp [Filter.AllFaithful]
  | cons f fs ih => simp [Filter.AllFaithful, ih]

theorem Filter.faithful_iff (f : Filter) :
    f.Faithful ↔ (∀ c ∈ f.compositeFilter, c.Faithful) ∧ ∀ p ∈ f.propertyFilter, p.Faithful := by
  obtain ⟨c, p⟩ := f
  cases c <;> simp [Filter.Faithful]

theorem CompositeFilter.faithful_iff (c : CompositeFilter) :
    c.Faithful ↔ ∀ f ∈ c.filters, f.Faithful := by
  obtain ⟨op, fs⟩ := c
  exact Filter.allFaithful_iff fs

theorem Filter.allToJson_eq_map (fs : List Filter) : Filter.allToJson fs = fs.map Filter.toJson := by
  induction fs with
  | nil => rfl
  | cons f fs ih => rw [Filter.allToJson, ih, List.map_cons]

theorem Filter.toJson_eq (f : Filter) :
    f.toJson =
      .obj (optional "compositeFilter" CompositeFilter.toJson f.compositeFilter ++
        optional "propertyFilter" PropertyFilter.toJson f.propertyFilter) := by
  obtain ⟨c, p⟩ := f
  cases c <;> rfl

theorem CompositeFilter.toJson_eq (c : CompositeFilter) :
    c.toJson = .obj [("op", NameSet.toJson c.op), ("filters", .arr (c.filters.map Filter.toJson))] := by
  obtain ⟨op, fs⟩ := c
  rw [CompositeFilter.toJson, Filter.allToJson_eq_map]

theorem Filter.toJson_ne_null (f : Filter) : f.toJson ≠ .null := by
  rw [Filter.toJson_eq]
  nofun

theorem CompositeFilter.toJson_ne_null (c : CompositeFilter) : c.toJson ≠ .null := by
  rw [CompositeFilter.toJson_eq]
  nofun

theorem restored_filterCompositional :
    FilterCompositional (fun f => Restored (Filter.ofJson f.toJson) f.Faithful f)
      (fun c => Restored (CompositeFilter.ofJson c.toJson) c.Faithful c) where
  filter f hc := by
    obtain ⟨c, hc, hc'⟩ := Restored.reread CompositeFilter.toJson_ne_null hc
    obtain ⟨p, hp, hp'⟩ := Restored.reread (o := f.propertyFilter) PropertyFilter.toJson_ne_null
      fun p _ => p.restored
    refine ⟨{ f with compositeFilter := c, propertyFilter := p }, ?_, fun h => ?_⟩
    · rw [Filter.toJson_eq, Filter.ofJson]
      exact readRecord_of_reads (.append (.optional hc (fun _ => rfl) rfl)
        (.optional hp (fun _ => rfl) rfl)) rfl
    · obtain ⟨h₁, h₂⟩ := (Filter.faithful_iff f).1 h
      obtain rfl := hc' h₁
      obtain rfl := hp' h₂
      cases f
      rfl
  composite c hf := by
    obtain ⟨fs, hfs, hfs'⟩ := Restored.list hf
    refine ⟨{ c with filters := fs }, ?_, fun h => ?_⟩
    · rw [CompositeFilter.toJson_eq, CompositeFilter.ofJson]
      exact readRecord_of_reads (.cons (NameSet.lossless.member fun _ => rfl)
        (.list hfs fun _ => rfl)) rfl
    · obtain rfl := hfs' ((CompositeFilter.faithful_iff c).1 h)
      cases c
      rfl

/-- A filter that was written can be read, and is the same one if it is faithful. -/
theorem Filter.restored (f : Filter) : Restored (Filter.ofJson f.toJson) f.Faithful f :=
  restored_filterCompositional.forall_filter f

/-- A composite filter that was written can be read, and is the same one if it is faithful. -/
theorem CompositeFilter.restored (c : CompositeFilter) :
    Restored (CompositeFilter.ofJson c.toJson) c.Faithful c :=
  restored_filterCompositional.forall_composite c

mutual

theorem Filter.faithful_of_ofJson (j : Json) {f : Filter} (h : Filter.ofJson j = .ok f) :
    f.Faithful := by
  rw [Filter.ofJson] at h
  refine readRecord_invariant ((Filter.faithful_iff _).2 (by simp)) (fun n x hx a b ha hb => ?_) h
  rw [Filter.faithful_iff] at ha ⊢
  split at hb
  · obtain ⟨c, hc, rfl⟩ := of_map_ok hb
    exact ⟨fun c h => CompositeFilter.faithful_of_ofJson x (of_readOption hc c h), ha.2⟩
  · obtain ⟨p, hp, rfl⟩ := of_map_ok hb
    exact ⟨ha.1, fun p h => PropertyFilter.faithful_of_ofJson (of_readOption hp p h)⟩
  · cases hb
    exact ha
termination_by sizeOf j

theorem CompositeFilter.faithful_of_ofJson (j : Json) {c : CompositeFilter}
    (h : CompositeFilter.ofJson j = .ok c) : c.Faithful := by
  rw [CompositeFilter.ofJson] at h
  refine readRecord_invariant ((CompositeFilter.faithful_iff _).2 (by simp))
    (fun n x hx a b ha hb => ?_) h
  rw [CompositeFilter.faithful_iff] at ha ⊢
  split at hb
  · obtain ⟨op, -, rfl⟩ := of_map_ok hb
    exact ha
  · obtain ⟨fs, hfs, rfl⟩ := of_map_ok hb
    intro f hf
    obtain ⟨y, hy, hf⟩ := of_readList hfs f hf
    exact Filter.faithful_of_ofJson y hf
  · cases hb
    exact ha
termination_by sizeOf j

end

end CloudData.Wire
