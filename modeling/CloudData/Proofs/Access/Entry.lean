/-
Access control entries in their messages. The message of a bucket and that of an
object say the same of an entry, also after a way through JSON, and the entry comes
back from them unless its grantee or its role is a known one in the guise of an
unknown one.
-/
import CloudData.Access.Entry
import CloudData.Proofs.Access.Grantee
import CloudData.Proofs.Wire.Lossless

namespace CloudData.Access

theorem Role.ofName_name_iff (r : Role) :
    ofName r.name = r ↔ ∀ s, r = .unknown s → s ≠ "OWNER" ∧ s ≠ "READER" ∧ s ≠ "WRITER" := by
  cases r with
  | unknown s =>
    constructor
    · rintro h t ⟨⟩
      -- the name of a known role would have been read as that role
      refine ⟨?_, ?_, ?_⟩ <;> rintro rfl <;> cases h
    · intro h
      obtain ⟨ho, hr, hw⟩ := h s rfl
      rw [name, ofName, if_neg ho, if_neg hr, if_neg hw]
  | _ => exact ⟨fun _ => nofun, fun _ => rfl⟩

namespace Entry

/-- What both messages say of an entry. -/
theorem ofFields_fields (a : Entry) :
    ofFields a.fields = { a with grantee := .ofWire a.grantee.toWire, role := .ofName a.role.name } :=
  rfl

theorem ofBucket_toBucket (a : Entry) : ofBucket a.toBucket = ofFields a.fields := rfl

theorem ofObject_toObject (a : Entry) : ofObject a.toObject = ofFields a.fields := rfl

/-- **An entry says the same in both of its messages.** Whether it is read from that of a bucket or
that of an object, at once or after JSON, the same entry comes of it. It is the original exactly if a
raw grantee is a text that denotes no other and an unknown role has not the name of a known one. -/
theorem messages_agree (a : Entry) :
    ofBucket a.toBucket = ofObject a.toObject ∧
    ofBucket <$> Wire.BucketAccessControl.ofJson a.toBucket.toJson = .ok (ofBucket a.toBucket) ∧
    ofObject <$> Wire.ObjectAccessControl.ofJson a.toObject.toJson = .ok (ofObject a.toObject) ∧
    (ofBucket a.toBucket = a ↔
      (∀ s, a.grantee = .raw s → ∀ g, ¬ Grantee.Denotes s g) ∧
      ∀ s, a.role = .unknown s → s ≠ "OWNER" ∧ s ≠ "READER" ∧ s ≠ "WRITER") := by
  have hbucket : Wire.BucketAccessControl.ofJson a.toBucket.toJson = .ok a.toBucket :=
    Wire.BucketAccessControl.lossless.read_write a.toBucket
  have hobject : Wire.ObjectAccessControl.ofJson a.toObject.toJson = .ok a.toObject :=
    Wire.ObjectAccessControl.lossless.read_write a.toObject
  refine ⟨?_, by rw [hbucket]; rfl, by rw [hobject]; rfl, ?_⟩
  · rw [ofBucket_toBucket, ofObject_toObject]
  · rw [ofBucket_toBucket, ofFields_fields, ← Grantee.ofWire_toWire_iff, ← Role.ofName_name_iff]
    obtain ⟨g, r, id, etag⟩ := a
    simp

end Entry

end CloudData.Access
