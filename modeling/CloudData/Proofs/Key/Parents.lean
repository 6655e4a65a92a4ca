/-
The keys above a key are the keys of its prefixes: of a path of `n` elements, the
key `i` steps up has the first `n - i`, and the chain ends at a single element.

`parent?_upTo` says what one step does to a prefix, and `above?_eq` what `i` steps
do. `build_eq` says which path a draft ends up with.
-/
import CloudData.Key.Draft
import CloudData.Key.Message
import CloudData.Proofs.Run

namespace CloudData

namespace Key

/-! ### The keys of prefixes -/

/-- The key of the first `m` elements of the path. -/
def upTo (k : Key) (m : Nat) : Key := { k with path := k.path.take m }

theorem upTo_of_length_le {k : Key} {m : Nat} (h : k.path.length ≤ m) : k.upTo m = k := by
  rw [upTo, List.take_of_length_le h]

theorem length_path_upTo {k : Key} {m : Nat} (h : m ≤ k.path.length) :
    (k.upTo m).path.length = m :=
  List.length_take_of_le h

theorem toWire_upTo (k : Key) (m : Nat) :
    (k.upTo m).toWire =
      { partitionId := k.toWire.partitionId, path := k.toWire.path.take m } := by
  simp [toWire, upTo, partition, List.map_take]

/-- In the partition of a message, an empty database or namespace is left out. -/
theorem partitionId_toWire (k : Key) :
    k.toWire.partitionId =
      some
        { projectId := k.projectId
          databaseId := if k.databaseId = "" then none else some k.databaseId
          namespaceId := if k.namespaceId = "" then none else some k.namespaceId } := by
  simp [toWire, partition, unlessEmpty]

theorem ancestors_eq_path_parent? (k : Key) :
    k.ancestors = (k.parent?.map Key.path).getD [] := by
  rw [parent?]
  cases k.ancestors <;> rfl

theorem parent?_upTo {k : Key} {m : Nat} (h : m ≤ k.path.length) :
    (k.upTo m).parent? = if 1 < m then some (k.upTo (m - 1)) else none := by
  have hancestors : (k.upTo m).ancestors = k.path.take (m - 1) := by
    rw [ancestors, List.dropLast_eq_take, length_path_upTo h, upTo, List.take_take,
      Nat.min_eq_left (Nat.sub_le m 1)]
  rw [parent?, hancestors]
  by_cases hm : 1 < m
  · have hne : (k.path.take (m - 1)).isEmpty = false := by
      rw [List.isEmpty_eq_false_iff, ← List.length_pos_iff, List.length_take_of_le (by omega)]
      omega
    rw [hne, if_pos hm]
    rfl
  · have : m - 1 = 0 := by omega
    rw [if_neg hm, this]
    rfl

/-- The last element of a prefix gives its key the kind, the number and the name. -/
theorem last_upTo {k : Key} {m : Nat} (hm : 0 < m) (h : m ≤ k.path.length) :
    ∃ e, k.path[m - 1]? = some e ∧ (k.upTo m).kind? = some e.kind ∧ (k.upTo m).id? = e.id? ∧
      (k.upTo m).name? = e.name? := by
  have he : k.path[m - 1]? = some (k.path[m - 1]) := List.getElem?_eq_getElem (by omega)
  have hlast : (k.upTo m).path.getLast? = some (k.path[m - 1]) := by
    rw [upTo, List.getLast?_take, if_neg (by omega), he]
    rfl
  exact ⟨_, he, by rw [kind?, hlast]; rfl, by rw [id?, hlast]; rfl, by rw [name?, hlast]; rfl⟩

/-! ### The chain -/

/-- The key so many steps up, if the chain of parents is that long. -/
def above? (k : Key) : Nat → Option Key
  | 0 => some k
  | i + 1 => (k.above? i).bind parent?

theorem above?_eq (k : Key) (i : Nat) :
    k.above? i =
      if i = 0 ∨ i < k.path.length then some (k.upTo (k.path.length - i)) else none := by
  induction i with
  | zero => rw [if_pos (.inl rfl), Nat.sub_zero, upTo_of_length_le (Nat.le_refl _)]; rfl
  | succ i ih =>
    rw [above?, ih]
    -- A key without a path has itself zero steps up, and no parent.
    by_cases hi : i = 0 ∨ i < k.path.length
    · rw [if_pos hi, Option.bind_some, parent?_upTo (Nat.sub_le _ _), Nat.sub_sub]
      have : 1 < k.path.length - i ↔ i + 1 = 0 ∨ i + 1 < k.path.length := by omega
      simp only [this]
    · rw [if_neg hi, if_neg (by omega)]
      rfl

/-- A key that is `i` steps up has the first elements of the path. -/
theorem eq_upTo_of_above? {k p : Key} {i : Nat} (h : k.above? i = some p) :
    (i = 0 ∨ i < k.path.length) ∧ p = k.upTo (k.path.length - i) := by
  rw [above?_eq] at h
  split at h
  next hi => exact ⟨hi, (Option.some.inj h).symm⟩
  next => cases h

/-- The steps can as well be taken from the parent. -/
theorem above?_succ (k : Key) (i : Nat) : k.above? (i + 1) = k.parent?.bind (·.above? i) := by
  induction i with
  | zero => cases h : k.parent? <;> simp [above?, h]
  | succ i ih =>
    rw [above?, ih, Option.bind_assoc]
    rfl

theorem getElem?_parents (k : Key) (i : Nat) : k.parents[i]? = k.above? (i + 1) := by
  induction i generalizing k with
  | zero =>
    rw [parents, above?_succ]
    split
    next hp => rw [hp]; rfl
    next hp => rw [hp]; rfl
  | succ i ih =>
    rw [parents, above?_succ]
    split
    next p hp => rw [hp, List.getElem?_cons_succ, ih]; rfl
    next hp => rw [hp]; rfl

theorem length_parents (k : Key) : k.parents.length = k.path.length - 1 := by
  have hnone (i : Nat) : k.parents.length ≤ i ↔ ¬ i + 1 < k.path.length := by
    rw [← List.getElem?_eq_none_iff, getElem?_parents, above?_eq]
    simp
  have h₁ := hnone k.parents.length
  have h₂ := hnone (k.path.length - 1)
  omega

/-- The chain of the keys above a key is made of the prefixes of its path. -/
structure ChainOfPrefixes (k : Key) : Prop where
  /-- Each step drops the last element, and the chain ends before the path is empty. -/
  steps : ∀ i, k.above? i =
    if i = 0 ∨ i < k.path.length then some (k.upTo (k.path.length - i)) else none
  parents_length : k.parents.length = k.path.length - 1
  parents_get : ∀ i, k.parents[i]? = k.above? (i + 1)
  partition_eq : ∀ i p, k.above? i = some p →
    p.projectId = k.projectId ∧ p.databaseId = k.databaseId ∧ p.namespaceId = k.namespaceId
  path_eq : ∀ i p, k.above? i = some p → p.path = k.path.take (k.path.length - i)
  last : ∀ i p, k.above? i = some p → 0 < k.path.length →
    ∃ e, k.path[k.path.length - i - 1]? = some e ∧ p.kind? = some e.kind ∧ p.id? = e.id? ∧
      p.name? = e.name?
  ancestors_eq : ∀ i p, k.above? i = some p →
    p.ancestors = (p.parent?.map Key.path).getD []
  wire_partition : k.toWire.partitionId =
    some
      { projectId := k.projectId
        databaseId := if k.databaseId = "" then none else some k.databaseId
        namespaceId := if k.namespaceId = "" then none else some k.namespaceId }
  wire_eq : ∀ i p, k.above? i = some p →
    p.toWire =
      { partitionId := k.toWire.partitionId, path := k.toWire.path.take (k.path.length - i) }

theorem chainOfPrefixes (k : Key) : k.ChainOfPrefixes where
  steps := k.above?_eq
  parents_length := k.length_parents
  parents_get := k.getElem?_parents
  partition_eq := by
    intro i p h
    obtain ⟨-, rfl⟩ := eq_upTo_of_above? h
    exact ⟨rfl, rfl, rfl⟩
  path_eq := by
    intro i p h
    obtain ⟨-, rfl⟩ := eq_upTo_of_above? h
    rfl
  last := by
    intro i p h hpos
    obtain ⟨hi, rfl⟩ := eq_upTo_of_above? h
    exact last_upTo (by omega) (Nat.sub_le _ _)
  ancestors_eq := by
    intro i p _
    exact p.ancestors_eq_path_parent?
  wire_partition := k.partitionId_toWire
  wire_eq := by
    intro i p h
    obtain ⟨-, rfl⟩ := eq_upTo_of_above? h
    exact k.toWire_upTo _

/-! ### Drafts -/

namespace Change

/-- The ancestor that the change adds. -/
def ancestor? : Change → Option PathElement
  | .ancestor e => some e
  | _ => none

/-- The kind that the change sets. -/
def kind? : Change → Option String
  | .kind s => some s
  | _ => none

/-- The identifier that the change sets. -/
def identifier? : Change → Option Identifier
  | .identifier i => some i
  | _ => none

/-- The database that the change sets. -/
def databaseId? : Change → Option String
  | .databaseId s => some s
  | _ => none

/-- The namespace that the change sets. -/
def namespaceId? : Change → Option String
  | .namespaceId s => some s
  | _ => none

end Change

namespace Draft

variable (d : Draft) (changes : List Change)

theorem projectId_applyAll : (d.applyAll changes).projectId = d.projectId :=
  foldl_unchanged (by intro d c; cases c <;> rfl) d changes

theorem databaseId_applyAll :
    (d.applyAll changes).databaseId = (lastSet? Change.databaseId? changes).getD d.databaseId :=
  foldl_getD (by intro d c; cases c <;> rfl) d changes

theorem namespaceId_applyAll :
    (d.applyAll changes).namespaceId = (lastSet? Change.namespaceId? changes).getD d.namespaceId :=
  foldl_getD (by intro d c; cases c <;> rfl) d changes

theorem ancestors_applyAll :
    (d.applyAll changes).ancestors = d.ancestors ++ changes.filterMap Change.ancestor? := by
  refine foldl_append ?_ d changes
  intro d c
  cases c <;> simp [apply, Change.ancestor?]

theorem kind_applyAll :
    (d.applyAll changes).kind = (lastSet? Change.kind? changes).getD d.kind :=
  foldl_getD (by intro d c; cases c <;> rfl) d changes

theorem identifier_applyAll :
    (d.applyAll changes).identifier = (lastSet? Change.identifier? changes).or d.identifier :=
  foldl_or (by intro d c; cases c <;> rfl) d changes

/-- Whatever the order of the changes, the element of the key itself comes last. -/
theorem build_eq (project kind : String) :
    (Draft.applyAll { projectId := project, kind := kind } changes).build =
      { projectId := project
        databaseId := (lastSet? Change.databaseId? changes).getD ""
        namespaceId := (lastSet? Change.namespaceId? changes).getD ""
        path := changes.filterMap Change.ancestor? ++
          [⟨(lastSet? Change.kind? changes).getD kind, lastSet? Change.identifier? changes⟩] } := by
  rw [build, projectId_applyAll, databaseId_applyAll, namespaceId_applyAll, ancestors_applyAll,
    kind_applyAll, identifier_applyAll, List.nil_append, Option.or_none]

end Draft

/-- The keys above a key, however it was made, are those of the prefixes of its path; the path of
a drafted key is its ancestors in order, and then the last kind with the last identifier. -/
theorem parents_are_prefixes :
    (∀ k : Key, k.ChainOfPrefixes) ∧
      ∀ (project kind : String) (changes : List Change),
        (Draft.applyAll { projectId := project, kind := kind } changes).build =
          { projectId := project
            databaseId := (lastSet? Change.databaseId? changes).getD ""
            namespaceId := (lastSet? Change.namespaceId? changes).getD ""
            path := changes.filterMap Change.ancestor? ++
              [⟨(lastSet? Change.kind? changes).getD kind,
                lastSet? Change.identifier? changes⟩] } :=
  ⟨chainOfPrefixes, fun project kind changes => Draft.build_eq changes project kind⟩

/-- A key of three elements, drafted with the identifier before the ancestors, is two steps away
from the end of its chain. -/
theorem parents_are_prefixes_three :
    let changes := [.kind "Note", .identifier (.id 7), .ancestor ⟨"Board", some (.id 1)⟩,
      .identifier (.name "b"), .ancestor ⟨"List", none⟩]
    let k := (Draft.applyAll { projectId := "p", kind := "Task" } changes).build
    k.path = [⟨"Board", some (.id 1)⟩, ⟨"List", none⟩, ⟨"Note", some (.name "b")⟩] ∧
      k.above? 2 = some { projectId := "p", path := [⟨"Board", some (.id 1)⟩] } ∧
      k.above? 3 = none := by
  intro changes k
  have hk : k = _ := parents_are_prefixes.2 "p" "Task" changes
  have hchain := parents_are_prefixes.1 k
  refine ⟨congrArg Key.path hk, ?_, ?_⟩
  · exact (hchain.steps 2).trans rfl
  · exact (hchain.steps 3).trans rfl

end Key

end CloudData
