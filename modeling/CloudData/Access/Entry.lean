/-
Access control entries: a grantee and the role it is granted. The messages for
buckets and for objects carry the same four fields of an entry and say which of
the two they are.
-/
import CloudData.Access.Grantee
import CloudData.Wire.Access

namespace CloudData.Access

/-- What is granted. -/
inductive Role
  | owner
  | reader
  | writer
  | unknown (name : String)
deriving DecidableEq

namespace Role

/-- The name of a role. -/
def name : Role → String
  | .owner => "OWNER"
  | .reader => "READER"
  | .writer => "WRITER"
  | .unknown s => s

/-- The role of that name. -/
def ofName (s : String) : Role :=
  if s = "OWNER" then .owner
  else if s = "READER" then .reader
  else if s = "WRITER" then .writer
  else .unknown s

end Role

/-- An access control entry. -/
structure Entry where
  grantee : Grantee
  role : Role
  id : Option String := none
  etag : Option String := none
deriving DecidableEq

namespace Entry

/-- The fields of an entry that its messages carry. -/
def fields (a : Entry) : Wire.AccessFields :=
  { entity := some a.grantee.toWire, role := some a.role.name, id := a.id, etag := a.etag }

/-- The entry as the message of a bucket. -/
def toBucket (a : Entry) : Wire.BucketAccessControl := .build a.fields

/-- The entry as the message of an object. -/
def toObject (a : Entry) : Wire.ObjectAccessControl := .build ⟨a.fields, none, none⟩

/-- The entry in the fields of a message; an absent grantee or role is an empty text. -/
def ofFields (f : Wire.AccessFields) : Entry :=
  { grantee := .ofWire (f.entity.getD ""), role := .ofName (f.role.getD ""), id := f.id, etag := f.etag }

/-- The entry in the message of a bucket. -/
def ofBucket (b : Wire.BucketAccessControl) : Entry := ofFields b.toAccessFields

/-- The entry in the message of an object. -/
def ofObject (o : Wire.ObjectAccessControl) : Entry := ofFields o.toAccessFields

/-- What is said while the fields of a message are read. -/
def readEvents (f : Wire.AccessFields) : List Event := Grantee.readEvents (f.entity.getD "")

end Entry

end CloudData.Access
