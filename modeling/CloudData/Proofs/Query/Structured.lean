/-
Building structured queries: which runs of changes make a valid query, what each
other run is refused for, and what the request of a built query can hold.

`QuerySettings.applyAll_eq`: the settings after a run, part by part.
`QuerySettings.fault?_eq_none_iff`: the settings without fault are the valid ones.
`StructuredQuery.build_applyAll`: the outcome of every run.
-/
import CloudData.Proofs.Run
import CloudData.Query.Request

namespace CloudData

namespace QuerySettings

attribute [ext] QuerySettings

/-! ## What a change is about

For each part of the settings, what a change sets it to or appends to it.
-/

namespace Change

def namespaceId? : Change → Option String
  | .namespaceId s => some s
  | _ => none

def kind? : Change → Option String
  | .kind s => some s
  | _ => none

def filter? : Change → Option Filter
  | .filter f => some f
  | _ => none

def orderBy? : Change → Option OrderBy
  | .orderBy o => some o
  | _ => none

def projection? : Change → Option String
  | .projection p => some p
  | _ => none

def distinctOn? : Change → Option String
  | .distinctOn p => some p
  | _ => none

def startCursor? : Change → Option Cursor
  | .startCursor c => some c
  | _ => none

def endCursor? : Change → Option Cursor
  | .endCursor c => some c
  | _ => none

def offset? : Change → Option Int32
  | .offset n => some n
  | _ => none

def limit? : Change → Option Int32
  | .limit n => some n
  | _ => none

end Change

/-! ## Runs of changes -/

/-- After a run, what changes replace is as the last of them left it, and what they append to has
everything in order. -/
theorem applyAll_eq (s : QuerySettings) (changes : List Change) :
    s.applyAll changes =
      { namespaceId := (lastSet? Change.namespaceId? changes).or s.namespaceId
        kind := (lastSet? Change.kind? changes).or s.kind
        projection := s.projection ++ changes.filterMap Change.projection?
        distinctOn := s.distinctOn ++ changes.filterMap Change.distinctOn?
        filter := (lastSet? Change.filter? changes).or s.filter
        orderBy := s.orderBy ++ changes.filterMap Change.orderBy?
        startCursor := (lastSet? Change.startCursor? changes).or s.startCursor
        endCursor := (lastSet? Change.endCursor? changes).or s.endCursor
        offset := (lastSet? Change.offset? changes).getD s.offset
        limit := (lastSet? Change.limit? changes).or s.limit } := by
  -- one step per part: a change sets it, appends to it or leaves it alone
  apply QuerySettings.ext
  · exact foldl_or (fun s c => by cases c <;> rfl) s changes
  · exact foldl_or (fun s c => by cases c <;> rfl) s changes
  · refine foldl_append (fun s c => ?_) s changes
    cases c <;> simp [apply, Change.projection?]
  · refine foldl_append (fun s c => ?_) s changes
    cases c <;> simp [apply, Change.distinctOn?]
  · exact foldl_or (fun s c => by cases c <;> rfl) s changes
  · refine foldl_append (fun s c => ?_) s changes
    cases c <;> simp [apply, Change.orderBy?]
  · exact foldl_or (fun s c => by cases c <;> rfl) s changes
  · exact foldl_or (fun s c => by cases c <;> rfl) s changes
  · exact foldl_getD (fun s c => by cases c <;> rfl) s changes
  · exact foldl_or (fun s c => by cases c <;> rfl) s changes

/-! ## Faults -/

/-- Settings of which a query for results of kind `k` can be built. -/
structure Valid (k : ResultKind) (s : QuerySettings) : Prop where
  offset_nonneg : 0 ≤ s.offset
  limit_pos : ∀ n ∈ s.limit, 0 < n
  unprojected : k = .projection ∨ s.projection = [] ∧ s.distinctOn = []

theorem limit_filter_eq_none_iff {l : Option Int32} :
    l.filter (· ≤ 0) = none ↔ ∀ n ∈ l, 0 < n := by
  simp [Option.filter_eq_none_iff]

theorem valid_iff {k : ResultKind} {s : QuerySettings} :
    s.Valid k ↔ ¬ s.offset < 0 ∧ s.limit.filter (· ≤ 0) = none ∧
      (k = .projection ∨ s.projection = [] ∧ s.distinctOn = []) := by
  rw [limit_filter_eq_none_iff, Int32.not_lt]
  exact ⟨fun ⟨ho, hl, hp⟩ => ⟨ho, hl, hp⟩, fun ⟨ho, hl, hp⟩ => ⟨ho, hl, hp⟩⟩

theorem fault?_eq_none_iff {k : ResultKind} {s : QuerySettings} :
    s.fault? k = none ↔ s.Valid k := by
  rw [valid_iff, fault?]
  by_cases ho : s.offset < 0
  · simp [ho]
  · rw [if_neg ho]
    cases s.limit.filter (· ≤ 0) with
    | some n => simp
    | none =>
      by_cases hk : k = .projection
      · simp [ho, hk]
      · by_cases hp : s.projection = [] <;> simp [ho, hk, hp]

theorem finish_eq (k : ResultKind) (s : QuerySettings) :
    s.finish k = { s with projection := if k = .key then ["__key__"] else s.projection } := by
  unfold finish
  split <;> rfl

end QuerySettings

namespace StructuredQuery

open QuerySettings

variable {k : ResultKind}

/-- The outcome of a fault: the settings are no valid argument. -/
def refused (fault : QueryFault) : Except Failure QuerySettings :=
  .error ⟨.invalidArgument, .query fault⟩

theorem map_settings_build (k : ResultKind) (s : QuerySettings) :
    (build k s).map settings =
      match s.fault? k with
      | some fault => refused fault
      | none => .ok (s.finish k) := by
  unfold build
  split
  · rename_i fault h
    rw [h]
    rfl
  · rename_i h
    simp only [h]
    rfl

/-- The faults in the order in which they are looked for. -/
theorem map_settings_build_eq (k : ResultKind) (s : QuerySettings) :
    (build k s).map settings =
      if s.offset < 0 then refused (.negativeOffset s.offset)
      else if let some n := s.limit.filter (· ≤ 0) then refused (.nonPositiveLimit n)
      else if k ≠ .projection ∧ s.projection ≠ [] then refused (.projectionNotSupported .projection)
      else if k ≠ .projection ∧ s.distinctOn ≠ [] then refused (.projectionNotSupported .distinctOn)
      else .ok { s with projection := if k = .key then ["__key__"] else s.projection } := by
  rw [map_settings_build, finish_eq, fault?]
  by_cases ho : s.offset < 0
  · rw [if_pos ho, if_pos ho]
  rw [if_neg ho, if_neg ho]
  cases s.limit.filter (· ≤ 0) with
  | some n => rfl
  | none =>
    by_cases hk : k = .projection
    · simp [hk]
    · by_cases hp : s.projection = []
      · by_cases hd : s.distinctOn = [] <;> simp [hk, hp, hd]
      · simp [hk, hp]

/-! ## What a request can hold -/

theorem one_le_of_pos {n : Int32} (h : 0 < n) : 1 ≤ n := by
  rw [Int32.lt_iff_toInt_lt] at h
  rw [Int32.le_iff_toInt_le]
  exact h

/-- A query that was built has neither offset nor limit below one in its message, one kind at most,
and no properties of its own choice where it gives keys or whole entities. -/
theorem toWire_bounded (q : StructuredQuery k) :
    let w := q.settings.toWire
    (∀ n ∈ w.offset, 1 ≤ n) ∧ (∀ n ∈ w.limit, 1 ≤ n) ∧ w.kind.length ≤ 1 ∧
      (k = .entity → w.projection = [] ∧ w.distinctOn = []) ∧
      (k = .key → w.projection = [⟨⟨"__key__"⟩⟩] ∧ w.distinctOn = []) := by
  intro w
  obtain ⟨_, s, hs, rfl⟩ := q
  have hv : s.Valid k := fault?_eq_none_iff.1 hs
  have hw : w = toWire { s with projection := if k = .key then ["__key__"] else s.projection } :=
    congrArg toWire (finish_eq k s)
  rw [hw]
  refine ⟨fun n hn => ?_, fun n hn => one_le_of_pos (hv.limit_pos n hn), ?_, fun hk => ?_,
    fun hk => ?_⟩
  · by_cases hz : s.offset = 0
    · simp [toWire, hz] at hn
    · have hn : s.offset = n := by simpa [toWire, hz] using hn
      have hpos : 0 < s.offset := Int32.lt_of_le_of_ne hv.offset_nonneg (Ne.symm hz)
      exact hn ▸ one_le_of_pos hpos
  · cases s.kind <;> simp [toWire]
  · obtain ⟨hp, hd⟩ := hv.unprojected.resolve_left (by rw [hk]; decide)
    simp [toWire, hk, hp, hd]
  · obtain ⟨-, hd⟩ := hv.unprojected.resolve_left (by rw [hk]; decide)
    simp [toWire, hk, hd]

/-! ## Outcomes -/

/-- **Structured queries are built from exactly the valid runs of changes.** Of offset and limit the
last ones count, and of each kind of fault the first in this order is told: an offset below zero, a
limit that is not above zero, and, unless the query gives projected entities, properties to project
to and properties to be distinct on. A query that is built has the last of what changes replace and
everything that they append, but a query for keys asks for the key alone. -/
theorem build_applyAll (k : ResultKind) (changes : List Change) :
    let offset := (lastSet? Change.offset? changes).getD 0
    let limit := lastSet? Change.limit? changes
    let projection := changes.filterMap Change.projection?
    let distinctOn := changes.filterMap Change.distinctOn?
    ((build k (applyAll {} changes)).map settings =
      if offset < 0 then refused (.negativeOffset offset)
      else if let some n := limit.filter (· ≤ 0) then refused (.nonPositiveLimit n)
      else if k ≠ .projection ∧ projection ≠ [] then refused (.projectionNotSupported .projection)
      else if k ≠ .projection ∧ distinctOn ≠ [] then refused (.projectionNotSupported .distinctOn)
      else .ok
        { namespaceId := lastSet? Change.namespaceId? changes
          kind := lastSet? Change.kind? changes
          projection := if k = .key then ["__key__"] else projection
          distinctOn := distinctOn
          filter := lastSet? Change.filter? changes
          orderBy := changes.filterMap Change.orderBy?
          startCursor := lastSet? Change.startCursor? changes
          endCursor := lastSet? Change.endCursor? changes
          offset := offset
          limit := limit }) ∧
    ∀ q, build k (applyAll {} changes) = .ok q → ∀ r, ∃ w,
      ((Query.structured q).populate r).query = some w ∧
      (∀ n ∈ w.offset, 1 ≤ n) ∧ (∀ n ∈ w.limit, 1 ≤ n) ∧ w.kind.length ≤ 1 ∧
      (k = .entity → w.projection = [] ∧ w.distinctOn = []) ∧
      (k = .key → w.projection = [⟨⟨"__key__"⟩⟩] ∧ w.distinctOn = []) := by
  refine ⟨?_, fun q _ r => ⟨_, rfl, toWire_bounded q⟩⟩
  rw [map_settings_build_eq, applyAll_eq]
  simp only [Option.or_none, List.nil_append]

/-- Values that are not valid do no harm once others replace them. -/
theorem build_applyAll_replaced :
    let run : List Change :=
      [.offset (-1), .limit 0, .orderBy (.desc "priority"), .kind "Task", .offset 0,
        .orderBy (.asc "done"), .limit 5]
    ∃ q : StructuredQuery .key, build .key (applyAll {} run) = .ok q ∧
      q.settings =
        { kind := some "Task"
          projection := ["__key__"]
          orderBy := [.desc "priority", .asc "done"]
          limit := some 5 } ∧
      ∃ w, ((Query.structured q).populate {}).query = some w ∧ (∀ n ∈ w.offset, 1 ≤ n) ∧
        w.projection = [⟨⟨"__key__"⟩⟩] ∧ w.distinctOn = [] := by
  intro run
  obtain ⟨houtcome, hrequest⟩ := build_applyAll .key run
  cases hq : build .key (applyAll {} run) with
  | error f =>
    rw [hq] at houtcome
    cases houtcome
  | ok q =>
    rw [hq] at houtcome
    obtain ⟨w, hw, hoffset, -, -, -, hkey⟩ := hrequest q hq {}
    exact ⟨q, rfl, Except.ok.inj houtcome, w, hw, hoffset, hkey rfl⟩

end StructuredQuery

end CloudData
