/-
Queries as messages: a structured query, a query in text with its bindings, and
the request that carries one of them.
-/
import CloudData.Wire.Filter

namespace CloudData.Wire

open Json

/-- A kind by name. -/
structure KindExpression where
  name : String := ""
deriving DecidableEq, Inhabited, Repr

/-- The message as JSON. -/
def KindExpression.toJson (k : KindExpression) : Json := .obj [("name", .str k.name)]

/-- The message that a JSON value holds. -/
def KindExpression.ofJson (j : Json) : Read KindExpression :=
  j.readRecord ["name"] {} fun name x _ k =>
    match name with
    | "name" => do return { k with name := ← x.readString }
    | _ => .ok k

/-- A property that a query gives back. -/
structure Projection where
  property : PropertyReference := {}
deriving DecidableEq, Inhabited, Repr

/-- The message as JSON. -/
def Projection.toJson (p : Projection) : Json := .obj [("property", p.property.toJson)]

/-- The message that a JSON value holds. -/
def Projection.ofJson (j : Json) : Read Projection :=
  j.readRecord ["property"] {} fun name x _ p =>
    match name with
    | "property" => do return { p with property := ← PropertyReference.ofJson x }
    | _ => .ok p

/-- Which way results are sorted. -/
inductive Direction
  | unspecified
  | ascending
  | descending
deriving DecidableEq, Inhabited, Repr

instance : NameSet Direction where
  codes := [.unspecified, .ascending, .descending]
  default := .unspecified
  name
    | .unspecified => "DIRECTION_UNSPECIFIED"
    | .ascending => "ASCENDING"
    | .descending => "DESCENDING"
  mem_codes k := by cases k <;> decide
  name_injective k l := by cases k <;> cases l <;> decide

/-- A property that results are sorted by. -/
structure PropertyOrder where
  property : PropertyReference := {}
  direction : Direction := .unspecified
deriving DecidableEq, Inhabited, Repr

/-- The message as JSON. -/
def PropertyOrder.toJson (o : PropertyOrder) : Json :=
  .obj [("property", o.property.toJson), ("direction", NameSet.toJson o.direction)]

/-- The message that a JSON value holds. -/
def PropertyOrder.ofJson (j : Json) : Read PropertyOrder :=
  j.readRecord ["property", "direction"] {} fun name x _ o =>
    match name with
    | "property" => do return { o with property := ← PropertyReference.ofJson x }
    | "direction" => do return { o with direction := ← NameSet.ofJson x }
    | _ => .ok o

/-- A structured query. -/
structure Query where
  projection : List Projection := []
  kind : List KindExpression := []
  filter : Option Filter := none
  order : List PropertyOrder := []
  distinctOn : List PropertyReference := []
  startCursor : Option Bytes := none
  endCursor : Option Bytes := none
  offset : Option Int32 := none
  limit : Option Int32 := none
deriving Inhabited

namespace Query

/-- The message as JSON: empty lists are left out. -/
def toJson (q : Query) : Json :=
  .obj (unlessEmpty "projection" Projection.toJson q.projection ++
    unlessEmpty "kind" KindExpression.toJson q.kind ++
    optional "filter" Filter.toJson q.filter ++
    unlessEmpty "order" PropertyOrder.toJson q.order ++
    unlessEmpty "distinctOn" PropertyReference.toJson q.distinctOn ++
    optional "startCursor" ofBytes q.startCursor ++ optional "endCursor" ofBytes q.endCursor ++
    optional "offset" ofInt32 q.offset ++ optional "limit" ofInt32 q.limit)

/-- The names of the fields, in the order of the array form. -/
def fields : List String :=
  ["projection", "kind", "filter", "order", "distinctOn", "startCursor", "endCursor", "offset",
    "limit"]

/-- The message that a JSON value holds. -/
def ofJson (j : Json) : Read Query :=
  j.readRecord fields {} fun name x _ q =>
    match name with
    | "projection" => do
      return { q with projection := ← x.readList fun y _ => Projection.ofJson y }
    | "kind" => do return { q with kind := ← x.readList fun y _ => KindExpression.ofJson y }
    | "filter" => do return { q with filter := ← x.readOption fun y _ => Filter.ofJson y }
    | "order" => do return { q with order := ← x.readList fun y _ => PropertyOrder.ofJson y }
    | "distinctOn" => do
      return { q with distinctOn := ← x.readList fun y _ => PropertyReference.ofJson y }
    | "startCursor" => do return { q with startCursor := ← x.readOption fun y _ => y.readBytes }
    | "endCursor" => do return { q with endCursor := ← x.readOption fun y _ => y.readBytes }
    | "offset" => do return { q with offset := ← x.readOption fun y _ => y.readInt32 }
    | "limit" => do return { q with limit := ← x.readOption fun y _ => y.readInt32 }
    | _ => .ok q

end Query

/-- What stands for a binding site of a query in text: a value or a cursor. -/
structure GqlQueryParameter where
  value : Option Value := none
  cursor : Option Bytes := none
deriving Inhabited

namespace GqlQueryParameter

/-- The message as JSON. -/
def toJson (p : GqlQueryParameter) : Json :=
  .obj (optional "value" Value.toJson p.value ++ optional "cursor" ofBytes p.cursor)

/-- The message that a JSON value holds. -/
def ofJson (j : Json) : Read GqlQueryParameter :=
  j.readRecord ["value", "cursor"] {} fun name x _ p =>
    match name with
    | "value" => do return { p with value := ← x.readOption fun y _ => Value.ofJson y }
    | "cursor" => do return { p with cursor := ← x.readOption fun y _ => y.readBytes }
    | _ => .ok p

end GqlQueryParameter

/-- A query in text, with named bindings and bindings by position. -/
structure GqlQuery where
  queryString : String := ""
  allowLiterals : Option Bool := none
  namedBindings : NameMap GqlQueryParameter := {}
  positionalBindings : List GqlQueryParameter := []
deriving Inhabited

namespace GqlQuery

/-- The named bindings, left out when there are none. -/
def namedToJson (m : NameMap GqlQueryParameter) : List (String × Json) :=
  if m.isEmpty then []
  else [("namedBindings", .obj (m.mapValues GqlQueryParameter.toJson).entries)]

/-- The message as JSON. -/
def toJson (q : GqlQuery) : Json :=
  .obj (("queryString", .str q.queryString) :: optional "allowLiterals" .bool q.allowLiterals ++
    namedToJson q.namedBindings ++
    unlessEmpty "positionalBindings" GqlQueryParameter.toJson q.positionalBindings)

/-- The names of the fields, in the order of the array form. -/
def fields : List String := ["queryString", "allowLiterals", "namedBindings", "positionalBindings"]

/-- The message that a JSON value holds. -/
def ofJson (j : Json) : Read GqlQuery :=
  j.readRecord fields {} fun name x _ q =>
    match name with
    | "queryString" => do return { q with queryString := ← x.readString }
    | "allowLiterals" => do return { q with allowLiterals := ← x.readOption fun y _ => y.readBool }
    | "namedBindings" => do
      return { q with namedBindings := ← x.readMap fun y _ => GqlQueryParameter.ofJson y }
    | "positionalBindings" => do
      return { q with positionalBindings := ← x.readList fun y _ => GqlQueryParameter.ofJson y }
    | _ => .ok q

end GqlQuery

/-- The request to run a query. -/
structure RunQueryRequest where
  projectId : String := ""
  databaseId : Option String := none
  partitionId : Option PartitionId := none
  query : Option Query := none
  gqlQuery : Option GqlQuery := none
deriving Inhabited

namespace RunQueryRequest

/-- The message as JSON. -/
def toJson (r : RunQueryRequest) : Json :=
  .obj (("projectId", .str r.projectId) :: optional "databaseId" .str r.databaseId ++
    optional "partitionId" PartitionId.toJson r.partitionId ++
    optional "query" Query.toJson r.query ++ optional "gqlQuery" GqlQuery.toJson r.gqlQuery)

/-- The names of the fields, in the order of the array form. -/
def fields : List String := ["projectId", "databaseId", "partitionId", "query", "gqlQuery"]

/-- The message that a JSON value holds. -/
def ofJson (j : Json) : Read RunQueryRequest :=
  j.readRecord fields {} fun name x _ r =>
    match name with
    | "projectId" => do return { r with projectId := ← x.readString }
    | "databaseId" => do return { r with databaseId := ← x.readOption fun y _ => y.readString }
    | "partitionId" => do
      return { r with partitionId := ← x.readOption fun y _ => PartitionId.ofJson y }
    | "query" => do return { r with query := ← x.readOption fun y _ => Query.ofJson y }
    | "gqlQuery" => do return { r with gqlQuery := ← x.readOption fun y _ => GqlQuery.ofJson y }
    | _ => .ok r

end RunQueryRequest

instance : Message KindExpression := ⟨{}, KindExpression.toJson, KindExpression.ofJson⟩
instance : Message Projection := ⟨{}, Projection.toJson, Projection.ofJson⟩
instance : Message PropertyOrder := ⟨{}, PropertyOrder.toJson, PropertyOrder.ofJson⟩
instance : Message Query := ⟨{}, Query.toJson, Query.ofJson⟩
instance : Message GqlQueryParameter := ⟨{}, GqlQueryParameter.toJson, GqlQueryParameter.ofJson⟩
instance : Message GqlQuery := ⟨{}, GqlQuery.toJson, GqlQuery.ofJson⟩
instance : Message RunQueryRequest := ⟨{}, RunQueryRequest.toJson, RunQueryRequest.ofJson⟩

end CloudData.Wire
