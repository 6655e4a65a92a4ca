/-
Structured queries. Settings are collected by changes, of which some replace and
others append; a query is built from settings that are valid for the kind of
results that it gives. A query for keys has exactly the key as its projection.
-/
import CloudData.Query.Cursor
import CloudData.Query.Filter
import CloudData.Query.Order

namespace CloudData

/-- What a structured query asks for. -/
structure QuerySettings where
  namespaceId : Option String := none
  kind : Option String := none
  projection : List String := []
  distinctOn : List String := []
  filter : Option Filter := none
  orderBy : List OrderBy := []
  startCursor : Option Cursor := none
  endCursor : Option Cursor := none
  offset : Int32 := 0
  limit : Option Int32 := none

namespace QuerySettings

/-- Equal, with doubles compared as numbers. -/
def alike (s t : QuerySettings) : Bool :=
  s.namespaceId == t.namespaceId && s.kind == t.kind && s.projection == t.projection &&
    s.distinctOn == t.distinctOn && s.filter.toList.isEqv t.filter.toList Filter.alike &&
    s.orderBy == t.orderBy && s.startCursor == t.startCursor && s.endCursor == t.endCursor &&
    s.offset == t.offset && s.limit == t.limit

/-- A change to the settings. -/
inductive Change
  | namespaceId (s : String)
  | kind (s : String)
  | filter (f : Filter)
  | orderBy (o : OrderBy)
  | projection (property : String)
  | distinctOn (property : String)
  | startCursor (c : Cursor)
  | endCursor (c : Cursor)
  | offset (n : Int32)
  | limit (n : Int32)

/-- Makes one change: sort orders and properties are appended, the rest is replaced. -/
def apply (s : QuerySettings) : Change → QuerySettings
  | .namespaceId n => { s with namespaceId := some n }
  | .kind n => { s with kind := some n }
  | .filter f => { s with filter := some f }
  | .orderBy o => { s with orderBy := s.orderBy ++ [o] }
  | .projection p => { s with projection := s.projection ++ [p] }
  | .distinctOn p => { s with distinctOn := s.distinctOn ++ [p] }
  | .startCursor c => { s with startCursor := some c }
  | .endCursor c => { s with endCursor := some c }
  | .offset n => { s with offset := n }
  | .limit n => { s with limit := some n }

/-- Makes changes one after the other. -/
def applyAll (s : QuerySettings) (changes : List Change) : QuerySettings := changes.foldl apply s

/-- The first fault of the settings for a query that gives results of kind `k`. -/
def fault? (k : ResultKind) (s : QuerySettings) : Option QueryFault :=
  if s.offset < 0 then some (.negativeOffset s.offset)
  else
    match s.limit.filter (· ≤ 0) with
    | some n => some (.nonPositiveLimit n)
    | none =>
      if k = .projection then none
      else if s.projection ≠ [] then some (.projectionNotSupported .projection)
      else if s.distinctOn ≠ [] then some (.projectionNotSupported .distinctOn)
      else none

/-- The settings of the query: one for keys asks for the key alone. -/
def finish (k : ResultKind) (s : QuerySettings) : QuerySettings :=
  if k = .key then { s with projection := [keyProperty] } else s

/-- The message of a query with these settings; an offset of zero is left out. -/
def toWire (s : QuerySettings) : Wire.Query :=
  { projection := s.projection.map fun p => ⟨⟨p⟩⟩
    kind := s.kind.toList.map fun n => ⟨n⟩
    filter := s.filter.map Filter.toWire
    order := s.orderBy.map OrderBy.toWire
    distinctOn := s.distinctOn.map fun p => ⟨p⟩
    startCursor := s.startCursor.map Cursor.bytes
    endCursor := s.endCursor.map Cursor.bytes
    offset := if s.offset = 0 then none else some s.offset
    limit := s.limit }

end QuerySettings

/-- A structured query that gives results of kind `k`: what comes of settings without fault. -/
structure StructuredQuery (k : ResultKind) where
  settings : QuerySettings
  finished : ∃ s : QuerySettings, s.fault? k = none ∧ s.finish k = settings

/-- The query with these settings, or the failure that their first fault is. -/
def StructuredQuery.build (k : ResultKind) (s : QuerySettings) : Except Failure (StructuredQuery k) :=
  match h : s.fault? k with
  | some fault => .error ⟨.invalidArgument, .query fault⟩
  | none => .ok ⟨s.finish k, s, h, rfl⟩

end CloudData
