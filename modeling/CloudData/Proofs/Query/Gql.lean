/-
Queries in text that are put together by a run of changes, and what their requests
bind. Only bindings made after the last change that clears them count: those without
a name all of them, in order, and of each name the last one.

`GqlQuery.positional_applyAll`, `GqlQuery.find?_named_applyAll`: the bindings after a
run. `GqlQuery.populate_applyAll`: the request.
-/
import CloudData.Proofs.Query.Request
import CloudData.Proofs.Run
import Mathlib.Data.List.Forall2

namespace CloudData

/-- The parameter has what is bound and nothing else: the field of its sort is set and the other one
is not. -/
def Binding.CarriedBy : Binding → Wire.GqlQueryParameter → Prop
  | .value v, p => p.value = some v.toWire ∧ p.cursor = none
  | .cursor c, p => p.value = none ∧ p.cursor = some c.bytes

theorem Binding.carriedBy_toWire (b : Binding) : b.CarriedBy b.toWire := by
  cases b <;> exact ⟨rfl, rfl⟩

namespace GqlQuery

variable {k : ResultKind}

/-! ## What a change is about -/

namespace Change

def queryString? : Change → Option String
  | .queryString s => some s
  | _ => none

def namespaceId? : Change → Option String
  | .namespaceId s => some s
  | _ => none

def allowLiterals? : Change → Option Bool
  | .allowLiterals b => some b
  | _ => none

/-- What a change binds to a name. -/
def bound? (name : String) : Change → Option Binding
  | .bind n b => if n = name then some b else none
  | _ => none

/-- What a change binds to the next position. -/
def added? : Change → Option Binding
  | .add b => some b
  | _ => none

def clears : Change → Bool
  | .clear => true
  | _ => false

theorem isSome_bound?_iff (c : Change) (name : String) :
    (c.bound? name).isSome ↔ ∃ b, c = .bind name b := by
  cases c with
  | bind n b => by_cases h : n = name <;> simp [bound?, h]
  | _ => simp [bound?]

end Change

/-- The changes after the last one that clears the bindings; all of them, if none does. -/
def sinceClear (changes : List Change) : List Change := changes.rtakeWhile (!·.clears)

/-! ## Runs of changes -/

theorem positional_apply (q : GqlQuery k) (c : Change) :
    (q.apply c).positional = if c.clears then [] else q.positional ++ c.added?.toList := by
  cases c <;> simp [apply, Change.clears, Change.added?]

theorem find?_named_apply (n : String) (q : GqlQuery k) (c : Change) :
    (q.apply c).named.find? n = if c.clears then none else (c.bound? n).or (q.named.find? n) := by
  cases c with
  | bind m b =>
    refine (NameMap.find?_insert q.named m n b).trans ?_
    by_cases h : n = m
    · simp [h, Change.clears, Change.bound?]
    · simp [h, Ne.symm h, Change.clears, Change.bound?]
  | _ => rfl

/-- Positions are taken in order from the last clearing on. -/
theorem positional_applyAll {q : GqlQuery k} (hq : q.positional = []) (changes : List Change) :
    (q.applyAll changes).positional = (sinceClear changes).filterMap Change.added? := by
  have h : (q.applyAll changes).positional =
      (sinceClear changes).foldl (fun bs c => bs ++ c.added?.toList) [] :=
    foldl_cleared (g := positional) positional_apply hq changes
  rw [h]
  exact foldl_append (g := id) (fun _ _ => rfl) [] (sinceClear changes)

/-- A name is bound to what it was bound to last, from the last clearing on. -/
theorem find?_named_applyAll {q : GqlQuery k} (hq : q.named = {}) (n : String)
    (changes : List Change) :
    (q.applyAll changes).named.find? n = lastSet? (Change.bound? n) (sinceClear changes) := by
  have h : (q.applyAll changes).named.find? n =
      (sinceClear changes).foldl (fun b c => (c.bound? n).or b) none :=
    foldl_cleared (g := fun q : GqlQuery k => q.named.find? n) (find?_named_apply n) (by rw [hq]; rfl)
      changes
  rw [h, ← Option.or_none (o := lastSet? _ _)]
  exact foldl_or (g := id) (fun _ _ => rfl) none (sinceClear changes)

theorem ascending_named_apply {q : GqlQuery k} (hq : q.named.Ascending) (c : Change) :
    (q.apply c).named.Ascending := by
  cases c with
  | bind n b => exact hq.insert n b
  | clear => exact NameMap.ascending_empty
  | _ => exact hq

theorem ascending_named_applyAll {q : GqlQuery k} (hq : q.named.Ascending) (changes : List Change) :
    (q.applyAll changes).named.Ascending := by
  induction changes generalizing q with
  | nil => exact hq
  | cons c changes ih => exact ih (ascending_named_apply hq c)

theorem queryString_applyAll (q : GqlQuery k) (changes : List Change) :
    (q.applyAll changes).queryString =
      (lastSet? Change.queryString? changes).getD q.queryString :=
  foldl_getD (g := queryString) (fun q c => by cases c <;> rfl) q changes

theorem allowLiterals_applyAll (q : GqlQuery k) (changes : List Change) :
    (q.applyAll changes).allowLiterals =
      (lastSet? Change.allowLiterals? changes).getD q.allowLiterals :=
  foldl_getD (g := allowLiterals) (fun q c => by cases c <;> rfl) q changes

theorem namespaceId_applyAll (q : GqlQuery k) (changes : List Change) :
    (q.applyAll changes).namespaceId =
      (lastSet? Change.namespaceId? changes).or q.namespaceId :=
  foldl_or (g := namespaceId) (fun q c => by cases c <;> rfl) q changes

/-! ## Requests -/

/-- **Bindings end up where the text refers to them.** Whatever run of changes a query in text is put
together by, the parameters of its request by position are what was added since the bindings were
last cleared, all of it and in order; there is one by name for each name that was bound since then,
and it is what the name was bound to last. Each parameter has a value or a cursor and not both. The
text, whether it may hold literals, and the namespace are what they were set to last, whatever was
cleared. -/
theorem populate_applyAll (s : String) (changes : List Change) (r : Wire.RunQueryRequest) :
    let since := sinceClear changes
    let q : GqlQuery k := applyAll { queryString := s } changes
    let result := (Query.gql q).populate r
    ∃ w, result.gqlQuery = some w ∧ result.query = none ∧
      List.Forall₂ Binding.CarriedBy (since.filterMap Change.added?) w.positionalBindings ∧
      w.namedBindings.Ascending ∧
      (∀ n, n ∈ w.namedBindings.names ↔ ∃ b, .bind n b ∈ since) ∧
      (∀ n, Option.Rel Binding.CarriedBy (lastSet? (Change.bound? n) since)
        (w.namedBindings.find? n)) ∧
      w.queryString = (lastSet? Change.queryString? changes).getD s ∧
      w.allowLiterals = some ((lastSet? Change.allowLiterals? changes).getD false) ∧
      match lastSet? Change.namespaceId? changes with
      | some m => result.partitionId = some { r.partitionId.getD {} with namespaceId := some m }
      | none => result.partitionId = r.partitionId := by
  intro since q result
  have hnamed (n : String) :
      q.toWire.namedBindings.find? n = (lastSet? (Change.bound? n) since).map Binding.toWire := by
    rw [toWire, NameMap.find?_mapValues, find?_named_applyAll rfl]
  refine ⟨q.toWire, rfl, rfl, ?_, ?_, fun n => ?_, fun n => ?_, ?_, ?_, ?_⟩
  · rw [toWire, positional_applyAll rfl, List.forall₂_map_right_iff]
    exact List.forall₂_same.2 fun b _ => b.carriedBy_toWire
  · exact (ascending_named_applyAll NameMap.ascending_empty changes).mapValues Binding.toWire
  · rw [NameMap.mem_names_iff, hnamed, Option.isSome_map]
    exact isSome_lastSet?_iff (fun c => c.isSome_bound?_iff n) since
  · rw [hnamed]
    cases lastSet? (Change.bound? n) since with
    | none => exact .none
    | some b => exact .some b.carriedBy_toWire
  · exact queryString_applyAll _ changes
  · exact congrArg some (allowLiterals_applyAll _ changes)
  · have hspace : q.namespaceId = lastSet? Change.namespaceId? changes :=
      (namespaceId_applyAll _ changes).trans Option.or_none
    have hpartition : result.partitionId =
        Query.placed (lastSet? Change.namespaceId? changes) r.partitionId := by
      rw [← hspace]
      exact Query.partitionId_populate (.gql q) r
    rw [hpartition]
    cases lastSet? Change.namespaceId? changes <;> rfl

end GqlQuery

end CloudData
