/-
Requests that are used again: queries of any sorts and kinds are put into one
request, one after the other. The request ends with the query of the last one and
with the last namespace that any of them has; nothing else in it changes.

`Query.populate_eq`: what one query does to each part of a request.
`Query.partitionId_populateAll`: where the request goes after a run.
-/
import CloudData.Proofs.Query.Request
import CloudData.Proofs.Run

namespace CloudData.Query

variable {k : ResultKind}

/-! ## One query -/

/-- The message of a structured query. -/
def structuredWire? : Query k → Option Wire.Query
  | .gql _ => none
  | .structured q => some q.settings.toWire

/-- The message of a query in text. -/
def gqlWire? : Query k → Option Wire.GqlQuery
  | .gql q => some q.toWire
  | .structured _ => none

theorem populate_eq (q : Query k) (r : Wire.RunQueryRequest) :
    q.populate r =
      { r with
        partitionId := placed q.namespaceId r.partitionId
        query := q.structuredWire?
        gqlQuery := q.gqlWire? } := by
  cases q <;> rfl

/-- Of two namespaces the one that is set later stays, in a partition that is otherwise the same. -/
theorem placed_placed (s t : Option String) (p : Option Wire.PartitionId) :
    placed s (placed t p) = placed (s.or t) p := by
  cases s <;> cases t <;> rfl

theorem populate_populate (q : Query k) (r : Wire.RunQueryRequest) :
    q.populate (q.populate r) = q.populate r := by
  simp only [populate_eq, placed_placed, Option.or_self]

/-! ## Runs of queries -/

/-- Puts queries into a request, one after the other. -/
def populateAll (qs : List ((k : ResultKind) × Query k)) (r : Wire.RunQueryRequest) :
    Wire.RunQueryRequest :=
  qs.foldl (fun r q => q.2.populate r) r

theorem populateAll_concat (qs : List ((k : ResultKind) × Query k)) (q : (k : ResultKind) × Query k)
    (r : Wire.RunQueryRequest) : populateAll (qs ++ [q]) r = q.2.populate (populateAll qs r) := by
  simp [populateAll]

theorem partitionId_populateAll (qs : List ((k : ResultKind) × Query k))
    (r : Wire.RunQueryRequest) :
    (populateAll qs r).partitionId = placed (lastSet? (·.2.namespaceId) qs) r.partitionId := by
  induction qs generalizing r with
  | nil => rfl
  | cons q qs ih =>
    rw [lastSet?_cons, ← placed_placed, ← partitionId_populate]
    exact ih (q.2.populate r)

/-- **Putting queries into a request changes what is theirs and nothing else.** It ends with the query
of the last one and no other. If none of them has a namespace, its partition is as it was; otherwise
the partition has the namespace of the last one that has any, and the rest of what it had. To put a
query in a second time changes nothing. -/
theorem populateAll_owned (qs : List ((k : ResultKind) × Query k)) (q : (k : ResultKind) × Query k)
    (r : Wire.RunQueryRequest) :
    let result := populateAll (qs ++ [q]) r
    (match q.2 with
      | .gql g => result.gqlQuery = some g.toWire ∧ result.query = none
      | .structured s => result.query = some s.settings.toWire ∧ result.gqlQuery = none) ∧
    result.projectId = r.projectId ∧ result.databaseId = r.databaseId ∧
    ((∀ p ∈ qs ++ [q], p.2.namespaceId = none) → result.partitionId = r.partitionId) ∧
    (∀ s, lastSet? (·.2.namespaceId) (qs ++ [q]) = some s → ∃ p,
      result.partitionId = some p ∧ p.namespaceId = some s ∧
      p.projectId = (r.partitionId.getD {}).projectId ∧
      p.databaseId = (r.partitionId.getD {}).databaseId) ∧
    q.2.populate (q.2.populate r) = q.2.populate r := by
  intro result
  have hpartition : result.partitionId = placed _ r.partitionId := partitionId_populateAll _ r
  refine ⟨?_, ?_, ?_, fun hnone => ?_, fun s hs => ?_, populate_populate q.2 r⟩
  · have hresult : result = q.2.populate (populateAll qs r) := populateAll_concat qs q r
    rw [hresult, populate_eq]
    cases q.2 <;> exact ⟨rfl, rfl⟩
  · exact foldl_unchanged (fun r q => by rw [populate_eq]) r _
  · exact foldl_unchanged (fun r q => by rw [populate_eq]) r _
  · rw [hpartition, lastSet?_eq_none_iff.2 hnone]
    rfl
  · rw [hpartition, hs]
    exact ⟨_, rfl, rfl, rfl, rfl⟩

/-- A query for keys in some namespace, and then one in text that says nothing about it. -/
theorem populateAll_owned_switched :
    let keys : Query .key :=
      .structured ⟨{ namespaceId := some "a", projection := ["__key__"] },
        { namespaceId := some "a" }, rfl, rfl⟩
    let text : GqlQuery .unknown := { queryString := "SELECT *" }
    let r : Wire.RunQueryRequest :=
      { partitionId := some { projectId := "p", databaseId := some "d", namespaceId := some "b" } }
    let both := populateAll ([⟨_, keys⟩] ++ [⟨_, .gql text⟩]) r
    both.gqlQuery = some text.toWire ∧ both.query = none ∧
    (∃ p, both.partitionId = some p ∧ p.namespaceId = some "a" ∧ p.projectId = "p" ∧
      p.databaseId = some "d") ∧
    (populateAll ([] ++ [⟨_, .gql text⟩]) r).partitionId = r.partitionId := by
  intro keys text r both
  obtain ⟨⟨hgql, hquery⟩, -, -, -, hspace, -⟩ :=
    populateAll_owned [⟨_, keys⟩] ⟨.unknown, .gql text⟩ r
  obtain ⟨-, -, -, hnone, -⟩ := populateAll_owned [] ⟨.unknown, .gql text⟩ r
  exact ⟨hgql, hquery, hspace "a" rfl, hnone (by simp [namespaceId, text])⟩

end CloudData.Query
