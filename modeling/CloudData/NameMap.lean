/-
Maps from names to values, kept as entries in ascending order of name. Names are
ordered by code point, and of two writes to one name the later one stays.

`find?_insert`, `find?_erase`: a write or a removal shows at its own name and at
no other. `Ascending.insert`, `Ascending.erase`, `ascending_ofList`: every
operation keeps the order. `ofList_entries`: ascending entries are the map they make.
-/

namespace CloudData

/-- Entries in ascending order of name, one for each name. -/
structure NameMap (α : Type) where
  entries : List (String × α) := []
deriving DecidableEq, Repr

namespace NameMap

variable {α β : Type}

instance : Inhabited (NameMap α) := ⟨{}⟩

/-- The names in order. -/
def names (m : NameMap α) : List String := m.entries.map (·.1)

/-- The names ascend, so no name occurs twice. -/
def Ascending (m : NameMap α) : Prop := m.names.Pairwise (· < ·)

instance (m : NameMap α) : Decidable m.Ascending :=
  inferInstanceAs (Decidable (m.names.Pairwise (· < ·)))

/-- The value of a name. -/
def find? (m : NameMap α) (name : String) : Option α := m.entries.lookup name

/-- Whether a name has a value. -/
def contains (m : NameMap α) (name : String) : Bool := (m.find? name).isSome

/-- No names at all. -/
def isEmpty (m : NameMap α) : Bool := m.entries.isEmpty

/-- Puts an entry in its place among ascending entries, replacing one of the same name. -/
def insertEntry (name : String) (value : α) : List (String × α) → List (String × α)
  | [] => [(name, value)]
  | (n, v) :: rest =>
    if name < n then (name, value) :: (n, v) :: rest
    else if name = n then (name, value) :: rest
    else (n, v) :: insertEntry name value rest

/-- Sets the value of a name. -/
def insert (m : NameMap α) (name : String) (value : α) : NameMap α :=
  ⟨insertEntry name value m.entries⟩

/-- Removes a name. -/
def erase (m : NameMap α) (name : String) : NameMap α := ⟨m.entries.filter (·.1 ≠ name)⟩

/-- The entries in order of name; the last of those with one name stays. -/
def ofList (entries : List (String × α)) : NameMap α :=
  entries.foldl (fun m e => m.insert e.1 e.2) {}

/-- Changes the values. -/
def mapValues (f : α → β) (m : NameMap α) : NameMap β := ⟨m.entries.map fun e => (e.1, f e.2)⟩

/-- The same names, with values that agree. -/
def agrees (same : α → α → Bool) (m n : NameMap α) : Bool :=
  m.entries.isEqv n.entries fun a b => a.1 == b.1 && same a.2 b.2

/-! ## Looking up -/

@[simp] theorem find?_empty (name : String) : ({} : NameMap α).find? name = none := rfl

theorem lookup_cons_ite (k n : String) (v : α) (es : List (String × α)) :
    ((n, v) :: es).lookup k = if k = n then some v else es.lookup k := by
  rw [List.lookup_cons]
  by_cases h : k = n
  · simp [h]
  · rw [beq_false_of_ne h, if_neg h]

theorem lookup_insertEntry (n k : String) (v : α) (es : List (String × α)) :
    (insertEntry n v es).lookup k = if k = n then some v else es.lookup k := by
  induction es with
  | nil => simp only [insertEntry, lookup_cons_ite]
  | cons e es ih =>
    obtain ⟨m, w⟩ := e
    simp only [insertEntry]
    split
    · simp only [lookup_cons_ite]
    · split
      · rename_i he
        subst he
        simp only [lookup_cons_ite]
        split <;> rfl
      · rename_i hne
        simp only [lookup_cons_ite, ih]
        by_cases hk : k = m
        · have : ¬ k = n := fun he => hne (he.symm.trans hk)
          simp [hk, Ne.symm hne]
        · simp [hk]

/-- A name that is set has the new value, and every other name what it had. -/
theorem find?_insert (m : NameMap α) (n k : String) (v : α) :
    (m.insert n v).find? k = if k = n then some v else m.find? k :=
  lookup_insertEntry n k v m.entries

theorem lookup_filter_ne (n k : String) (es : List (String × α)) :
    (es.filter (·.1 ≠ n)).lookup k = if k = n then none else es.lookup k := by
  induction es with
  | nil => simp
  | cons e es ih =>
    obtain ⟨m, w⟩ := e
    by_cases h : m = n
    · subst h
      rw [List.filter_cons_of_neg (by simp), ih, lookup_cons_ite]
      split <;> rfl
    · rw [List.filter_cons_of_pos (by simpa using h), lookup_cons_ite, lookup_cons_ite, ih]
      by_cases hk : k = m
      · simp [hk, h]
      · simp [hk]

/-- A name that is removed has no value, and every other name what it had. -/
theorem find?_erase (m : NameMap α) (n k : String) :
    (m.erase n).find? k = if k = n then none else m.find? k :=
  lookup_filter_ne n k m.entries

theorem lookup_map (f : String → α → β) (k : String) (es : List (String × α)) :
    (es.map fun e => (e.1, f e.1 e.2)).lookup k = (es.lookup k).map (f k) := by
  induction es with
  | nil => rfl
  | cons e es ih =>
    obtain ⟨n, v⟩ := e
    rw [List.map_cons, lookup_cons_ite, lookup_cons_ite, ih]
    by_cases h : k = n
    · subst h
      rw [if_pos rfl, if_pos rfl, Option.map_some]
    · rw [if_neg h, if_neg h]

theorem find?_mapValues (f : α → β) (m : NameMap α) (k : String) :
    (m.mapValues f).find? k = (m.find? k).map f :=
  lookup_map (fun _ => f) k m.entries

/-- A value that is found under a name has an entry. -/
theorem mem_of_find? {m : NameMap α} {k : String} {v : α} (h : m.find? k = some v) :
    (k, v) ∈ m.entries := by
  obtain ⟨before, after, he, -⟩ := List.lookup_eq_some_iff.1 h
  rw [he]
  simp

/-- The names are those under which a value is found. -/
theorem mem_names_iff (m : NameMap α) (k : String) : k ∈ m.names ↔ (m.find? k).isSome := by
  constructor
  · intro h
    obtain ⟨e, he, rfl⟩ := List.mem_map.1 h
    rw [Option.isSome_iff_ne_none, find?, ne_eq, List.lookup_eq_none_iff]
    exact fun hn => by simpa using hn e he
  · intro h
    obtain ⟨v, hv⟩ := Option.isSome_iff_exists.1 h
    exact List.mem_map_of_mem (mem_of_find? hv)

/-! ## Order -/

theorem mem_insertEntry {n : String} {v : α} {es : List (String × α)} {e : String × α}
    (h : e ∈ insertEntry n v es) : e = (n, v) ∨ e ∈ es := by
  induction es with
  | nil => simpa [insertEntry] using h
  | cons d es ih =>
    obtain ⟨m, w⟩ := d
    simp only [insertEntry] at h
    split at h
    · simpa using h
    · split at h
      · exact (List.mem_cons.1 h).imp id (List.mem_cons_of_mem _)
      · rcases List.mem_cons.1 h with rfl | h
        · exact .inr (by simp)
        · exact (ih h).imp id (List.mem_cons_of_mem _)

theorem mem_names_insertEntry {n k : String} {v : α} {es : List (String × α)}
    (h : k ∈ (insertEntry n v es).map (·.1)) : k = n ∨ k ∈ es.map (·.1) := by
  obtain ⟨e, he, rfl⟩ := List.mem_map.1 h
  rcases mem_insertEntry he with rfl | he
  · exact .inl rfl
  · exact .inr (List.mem_map_of_mem he)

theorem pairwise_insertEntry (n : String) (v : α) {es : List (String × α)}
    (h : (es.map (·.1)).Pairwise (· < ·)) : ((insertEntry n v es).map (·.1)).Pairwise (· < ·) := by
  induction es with
  | nil => simp [insertEntry]
  | cons e es ih =>
    obtain ⟨m, w⟩ := e
    rw [List.map_cons, List.pairwise_cons] at h
    simp only [insertEntry]
    split
    · rename_i hn
      simp only [List.map_cons, List.pairwise_cons, List.mem_cons]
      exact ⟨fun k hk => hk.elim (fun he => he ▸ hn) fun hk => String.lt_trans hn (h.1 k hk), h⟩
    · split
      · rename_i he
        subst he
        simpa using h
      · rename_i hlt hne
        have hmn : m < n := Decidable.byContradiction fun hc =>
          hne (String.le_antisymm (String.not_lt.1 hc) (String.not_lt.1 hlt))
        simp only [List.map_cons, List.pairwise_cons]
        exact ⟨fun k hk => (mem_names_insertEntry hk).elim (fun he => he ▸ hmn) (h.1 k), ih h.2⟩

theorem Ascending.insert {m : NameMap α} (h : m.Ascending) (n : String) (v : α) :
    (m.insert n v).Ascending :=
  pairwise_insertEntry n v h

theorem Ascending.erase {m : NameMap α} (h : m.Ascending) (n : String) : (m.erase n).Ascending :=
  List.Pairwise.sublist (List.Sublist.map _ List.filter_sublist) h

theorem names_mapValues (f : α → β) (m : NameMap α) : (m.mapValues f).names = m.names := by
  simp [mapValues, names]

theorem Ascending.mapValues {m : NameMap α} (h : m.Ascending) (f : α → β) :
    (m.mapValues f).Ascending := by
  rwa [Ascending, names_mapValues]

theorem ascending_empty : ({} : NameMap α).Ascending := List.Pairwise.nil

theorem ascending_ofList (es : List (String × α)) : (ofList es).Ascending := by
  suffices ∀ m : NameMap α, m.Ascending → (es.foldl (fun m e => m.insert e.1 e.2) m).Ascending from
    this {} ascending_empty
  induction es with
  | nil => exact fun m h => h
  | cons e es ih => exact fun m h => ih _ (h.insert e.1 e.2)

theorem mem_of_mem_ofList {es : List (String × α)} {e : String × α} (h : e ∈ (ofList es).entries) :
    e ∈ es := by
  suffices ∀ m : NameMap α, e ∈ (es.foldl (fun m e => m.insert e.1 e.2) m).entries →
      e ∈ m.entries ∨ e ∈ es from
    (this {} h).resolve_left List.not_mem_nil
  clear h
  induction es with
  | nil => exact fun m h => .inl h
  | cons d es ih =>
    intro m h
    rcases ih _ h with h | h
    · exact (mem_insertEntry h).elim (fun h => .inr (by simp [h])) .inl
    · exact .inr (List.mem_cons_of_mem _ h)

/-- Where no name occurs twice, every entry is found under its name. -/
theorem lookup_of_mem {es : List (String × α)} (h : (es.map (·.1)).Pairwise (· < ·)) {e : String × α}
    (he : e ∈ es) : es.lookup e.1 = some e.2 := by
  induction es with
  | nil => cases he
  | cons d es ih =>
    obtain ⟨n, v⟩ := d
    rw [List.map_cons, List.pairwise_cons] at h
    rw [lookup_cons_ite]
    rcases List.mem_cons.1 he with rfl | he
    · rw [if_pos rfl]
    · have hlt : n < e.1 := h.1 e.1 (List.mem_map_of_mem he)
      have hne : e.1 ≠ n := fun hn => String.lt_irrefl n (by rwa [hn] at hlt)
      rw [if_neg hne, ih h.2 he]

/-- No value is found under a name before all others. -/
theorem lookup_of_lt {k : String} {es : List (String × α)} (h : ∀ n ∈ es.map (·.1), k < n) :
    es.lookup k = none := by
  refine List.lookup_eq_none_iff.2 fun e he => bne_iff_ne.2 fun hk => ?_
  have hlt : k < e.1 := h e.1 (List.mem_map_of_mem he)
  exact String.lt_irrefl k (by rwa [← hk] at hlt)

theorem eq_of_lookup_eq {es fs : List (String × α)} (he : (es.map (·.1)).Pairwise (· < ·))
    (hf : (fs.map (·.1)).Pairwise (· < ·)) (h : ∀ k, es.lookup k = fs.lookup k) : es = fs := by
  induction es generalizing fs with
  | nil =>
    cases fs with
    | nil => rfl
    | cons d fs =>
      have hd := h d.1
      rw [lookup_of_mem hf (List.mem_cons_self ..)] at hd
      cases hd
  | cons c es ih =>
    cases fs with
    | nil =>
      have hc := h c.1
      rw [lookup_of_mem he (List.mem_cons_self ..)] at hc
      cases hc
    | cons d fs =>
      obtain ⟨n, v⟩ := c
      obtain ⟨m, w⟩ := d
      rw [List.map_cons, List.pairwise_cons] at he hf
      -- the smaller of the two first names would be missing on the other side
      have hnm : ¬ n < m := fun hlt => by
        have hn : ((m, w) :: fs).lookup n = none :=
          lookup_of_lt (List.forall_mem_cons.2 ⟨hlt, fun k hk => String.lt_trans hlt (hf.1 k hk)⟩)
        rw [← h n, lookup_cons_ite, if_pos rfl] at hn
        cases hn
      have hmn : ¬ m < n := fun hlt => by
        have hm : ((n, v) :: es).lookup m = none :=
          lookup_of_lt (List.forall_mem_cons.2 ⟨hlt, fun k hk => String.lt_trans hlt (he.1 k hk)⟩)
        rw [h m, lookup_cons_ite, if_pos rfl] at hm
        cases hm
      have hnm : n = m := String.le_antisymm (String.not_lt.1 hmn) (String.not_lt.1 hnm)
      subst hnm
      have hv := h n
      rw [lookup_cons_ite, lookup_cons_ite, if_pos rfl, if_pos rfl] at hv
      have hvw : v = w := Option.some.inj hv
      subst hvw
      refine congrArg ((n, v) :: ·) (ih he.2 hf.2 fun k => ?_)
      by_cases hk : k = n
      · rw [hk, lookup_of_lt he.1, lookup_of_lt hf.1]
      · have hk' := h k
        rwa [lookup_cons_ite, lookup_cons_ite, if_neg hk, if_neg hk] at hk'

/-- Maps are equal if the same is found in them. -/
theorem Ascending.ext {m n : NameMap α} (hm : m.Ascending) (hn : n.Ascending)
    (h : ∀ k, m.find? k = n.find? k) : m = n :=
  congrArg NameMap.mk (eq_of_lookup_eq hm hn h)

/-- Entries in ascending order are put back one by one from the last. -/
theorem insertEntry_of_lt {n : String} {v : α} {es : List (String × α)}
    (h : ∀ k ∈ es.map (·.1), n < k) : insertEntry n v es = (n, v) :: es := by
  cases es with
  | nil => rfl
  | cons e es => simp [insertEntry, h e.1 (by simp)]

/-- An entry after all others is appended. -/
theorem insertEntry_of_gt {n : String} {v : α} {es : List (String × α)}
    (h : ∀ k ∈ es.map (·.1), k < n) : insertEntry n v es = es ++ [(n, v)] := by
  induction es with
  | nil => rfl
  | cons e es ih =>
    have hlt : e.1 < n := h e.1 (by simp)
    have hne : ¬ n = e.1 := fun he => String.lt_irrefl n (by rwa [← he] at hlt)
    simp only [insertEntry, String.lt_asymm hlt, hne, if_false, List.cons_append]
    rw [ih fun k hk => h k (by simp [List.map_cons, hk])]

/-- Ascending entries are the map that they make. -/
theorem ofList_entries {m : NameMap α} (h : m.Ascending) : ofList m.entries = m := by
  suffices ∀ (es : List (String × α)) (acc : NameMap α),
      ((acc.entries ++ es).map (·.1)).Pairwise (· < ·) →
        es.foldl (fun m e => m.insert e.1 e.2) acc = ⟨acc.entries ++ es⟩ from
    this m.entries {} h
  intro es
  induction es with
  | nil => intro acc _; simp
  | cons e es ih =>
    intro acc h
    have hlt : ∀ k ∈ acc.entries.map (·.1), k < e.1 := by
      rw [List.map_append, List.pairwise_append] at h
      exact fun k hk => h.2.2 k hk e.1 (by simp)
    have hi : acc.insert e.1 e.2 = ⟨acc.entries ++ [e]⟩ := by
      simp only [insert, insertEntry_of_gt hlt]
    rw [List.foldl_cons, hi, ih ⟨acc.entries ++ [e]⟩ (by simpa using h)]
    simp

end NameMap

end CloudData
