/-
Access control entries as messages, for buckets and for objects. Every field may
be absent; the array form of these messages must have all of them.
-/
import CloudData.Wire.Message

namespace CloudData.Wire

open Json

/-- The team of a project that an entry speaks of. -/
structure ProjectTeam where
  projectNumber : Option String := none
  team : Option String := none
deriving DecidableEq, Inhabited, Repr

namespace ProjectTeam

/-- The message as JSON. -/
def toJson (t : ProjectTeam) : Json :=
  .obj (optional "projectNumber" .str t.projectNumber ++ optional "team" .str t.team)

/-- The message that a JSON value holds. -/
def ofJson (j : Json) : Read ProjectTeam :=
  j.readWholeRecord ["projectNumber", "team"] {} fun name x t =>
    match name with
    | "projectNumber" => do
      return { t with projectNumber := ← x.readOption fun y _ => y.readString }
    | "team" => do return { t with team := ← x.readOption fun y _ => y.readString }
    | _ => .ok t

end ProjectTeam

/-- What the entries of buckets and of objects have in common. -/
structure AccessFields where
  bucket : Option String := none
  domain : Option String := none
  email : Option String := none
  entity : Option String := none
  entityId : Option String := none
  etag : Option String := none
  id : Option String := none
  kind : Option String := none
  projectTeam : Option ProjectTeam := none
  role : Option String := none
  selfLink : Option String := none
deriving DecidableEq, Inhabited, Repr

namespace AccessFields

/-- The fields after the name of the bucket. -/
def members (f : AccessFields) : List (String × Json) :=
  optional "domain" .str f.domain ++ optional "email" .str f.email ++
    optional "entity" .str f.entity ++ optional "entityId" .str f.entityId ++
    optional "etag" .str f.etag ++ optional "id" .str f.id ++ optional "kind" .str f.kind ++
    optional "projectTeam" ProjectTeam.toJson f.projectTeam ++ optional "role" .str f.role ++
    optional "selfLink" .str f.selfLink

/-- The names of the fields after the name of the bucket, in the order of the array form. -/
def names : List String :=
  ["domain", "email", "entity", "entityId", "etag", "id", "kind", "projectTeam", "role", "selfLink"]

/-- Reads one field into those read so far. -/
def readField (name : String) (x : Json) (f : AccessFields) : Read AccessFields :=
  match name with
  | "bucket" => do return { f with bucket := ← x.readOption fun y _ => y.readString }
  | "domain" => do return { f with domain := ← x.readOption fun y _ => y.readString }
  | "email" => do return { f with email := ← x.readOption fun y _ => y.readString }
  | "entity" => do return { f with entity := ← x.readOption fun y _ => y.readString }
  | "entityId" => do return { f with entityId := ← x.readOption fun y _ => y.readString }
  | "etag" => do return { f with etag := ← x.readOption fun y _ => y.readString }
  | "id" => do return { f with id := ← x.readOption fun y _ => y.readString }
  | "kind" => do return { f with kind := ← x.readOption fun y _ => y.readString }
  | "projectTeam" => do
    return { f with projectTeam := ← x.readOption fun y _ => ProjectTeam.ofJson y }
  | "role" => do return { f with role := ← x.readOption fun y _ => y.readString }
  | "selfLink" => do return { f with selfLink := ← x.readOption fun y _ => y.readString }
  | _ => .ok f

end AccessFields

/-- The entry of a bucket. -/
structure BucketAccessControl extends AccessFields
deriving DecidableEq, Inhabited, Repr

namespace BucketAccessControl

/-- The message as JSON. -/
def toJson (b : BucketAccessControl) : Json :=
  .obj (optional "bucket" .str b.bucket ++ b.toAccessFields.members)

/-- The names of the fields, in the order of the array form. -/
def names : List String := "bucket" :: AccessFields.names

/-- The message that a JSON value holds. -/
def ofJson (j : Json) : Read BucketAccessControl :=
  j.readWholeRecord names {} fun name x b => do
    return { toAccessFields := ← AccessFields.readField name x b.toAccessFields }

/-- What every entry of a bucket says it is. -/
def kindName : String := "storage#bucketAccessControl"

/-- The entry with these fields, which says what it is. -/
def build (f : AccessFields) : BucketAccessControl := ⟨{ f with kind := some kindName }⟩

end BucketAccessControl

/-- The entry of an object. -/
structure ObjectAccessControl extends AccessFields where
  object : Option String := none
  generation : Option String := none
deriving DecidableEq, Inhabited, Repr

namespace ObjectAccessControl

/-- The message as JSON. -/
def toJson (o : ObjectAccessControl) : Json :=
  .obj (optional "bucket" .str o.bucket ++ optional "object" .str o.object ++
    optional "generation" .str o.generation ++ o.toAccessFields.members)

/-- The names of the fields, in the order of the array form. -/
def names : List String := "bucket" :: "object" :: "generation" :: AccessFields.names

/-- The message that a JSON value holds. -/
def ofJson (j : Json) : Read ObjectAccessControl :=
  j.readWholeRecord names {} fun name x o =>
    match name with
    | "object" => do return { o with object := ← x.readOption fun y _ => y.readString }
    | "generation" => do return { o with generation := ← x.readOption fun y _ => y.readString }
    | _ => do
      return { o with toAccessFields := ← AccessFields.readField name x o.toAccessFields }

/-- What every entry of an object says it is. -/
def kindName : String := "storage#objectAccessControl"

/-- The entry with these fields, which says what it is. -/
def build (o : ObjectAccessControl) : ObjectAccessControl := { o with kind := some kindName }

end ObjectAccessControl

instance : Message ProjectTeam := ⟨{}, ProjectTeam.toJson, ProjectTeam.ofJson⟩
instance : Message BucketAccessControl := ⟨{}, BucketAccessControl.toJson, BucketAccessControl.ofJson⟩
instance : Message ObjectAccessControl := ⟨{}, ObjectAccessControl.toJson, ObjectAccessControl.ofJson⟩

end CloudData.Wire
