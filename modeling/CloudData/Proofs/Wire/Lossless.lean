/-
Messages that always come back from JSON as they were: those without doubles,
without codes of open enumerations and without maps.

Each proof goes through the members in the order in which they are written. Of a
field it shows that the reader of that name sets it, and for a field that may be
missing also that it was not set before.
-/
import CloudData.Proofs.Json.Reader
import CloudData.Proofs.Wire.Code
import CloudData.Wire.Access
import CloudData.Wire.Query

namespace CloudData.Wire

open Json

theorem NameSet.lossless {κ : Type} [NameSet κ] :
    Lossless (NameSet.toJson : κ → Json) NameSet.ofJson where
  ne_null := nofun
  read_write := NameSet.ofJson_toJson

/-! ## Keys -/

theorem PartitionId.lossless : Lossless PartitionId.toJson PartitionId.ofJson where
  ne_null := nofun
  read_write _ := readRecord_of_reads
    (.append (.cons (lossless_string.member fun _ => rfl)
      (lossless_string.optional (fun _ => rfl) rfl))
      (lossless_string.optional (fun _ => rfl) rfl)) rfl

theorem PathElement.lossless : Lossless PathElement.toJson PathElement.ofJson where
  ne_null := nofun
  read_write _ := readRecord_of_reads
    (.append (.cons (lossless_string.member fun _ => rfl)
      (lossless_int64.optional (fun _ => rfl) rfl))
      (lossless_string.optional (fun _ => rfl) rfl)) rfl

theorem Key.lossless : Lossless Key.toJson Key.ofJson where
  ne_null := nofun
  read_write _ := readRecord_of_reads
    (.append (PartitionId.lossless.optional (fun _ => rfl) rfl)
      (.list (PathElement.lossless.list _) fun _ => rfl)) rfl

/-! ## Parts of queries -/

theorem PropertyReference.lossless :
    Lossless PropertyReference.toJson PropertyReference.ofJson where
  ne_null := nofun
  read_write _ := readRecord_of_reads (lossless_string.member fun _ => rfl) rfl

theorem KindExpression.lossless : Lossless KindExpression.toJson KindExpression.ofJson where
  ne_null := nofun
  read_write _ := readRecord_of_reads (lossless_string.member fun _ => rfl) rfl

theorem Projection.lossless : Lossless Projection.toJson Projection.ofJson where
  ne_null := nofun
  read_write _ := readRecord_of_reads (PropertyReference.lossless.member fun _ => rfl) rfl

theorem PropertyOrder.lossless : Lossless PropertyOrder.toJson PropertyOrder.ofJson where
  ne_null := nofun
  read_write _ := readRecord_of_reads
    (.cons (PropertyReference.lossless.member fun _ => rfl)
      (NameSet.lossless.member fun _ => rfl)) rfl

/-! ## Access control -/

theorem ProjectTeam.lossless : Lossless ProjectTeam.toJson ProjectTeam.ofJson where
  ne_null := nofun
  read_write _ := readWholeRecord_of_reads
    (.append (lossless_string.optional (fun _ => rfl) rfl)
      (lossless_string.optional (fun _ => rfl) rfl)) rfl

namespace AccessFields

/-- The fields after the name of the bucket are read one after the other. -/
theorem reads_members (f : AccessFields) : Reads readField f.members { bucket := f.bucket } f :=
  Reads.trans_eq (.append (.append (.append (.append (.append (.append (.append (.append (.append
    (lossless_string.optional (fun _ => rfl) rfl)
    (lossless_string.optional (fun _ => rfl) rfl))
    (lossless_string.optional (fun _ => rfl) rfl))
    (lossless_string.optional (fun _ => rfl) rfl))
    (lossless_string.optional (fun _ => rfl) rfl))
    (lossless_string.optional (fun _ => rfl) rfl))
    (lossless_string.optional (fun _ => rfl) rfl))
    (ProjectTeam.lossless.optional (fun _ => rfl) rfl))
    (lossless_string.optional (fun _ => rfl) rfl))
    (lossless_string.optional (fun _ => rfl) rfl)) rfl

theorem reads_bucket (f : AccessFields) :
    Reads readField (optional "bucket" .str f.bucket) {} { bucket := f.bucket } :=
  Reads.trans_eq (lossless_string.optional (fun _ => rfl) rfl) rfl

/-- The names of the members are those of the fields. -/
theorem fst_mem_names {f : AccessFields} {m : String × Json} (h : m ∈ f.members) : m.1 ∈ names := by
  unfold members at h
  simp only [List.mem_append, or_assoc] at h
  rcases h with h | h | h | h | h | h | h | h | h | h <;> rw [fst_of_mem_optional h] <;> decide

end AccessFields

namespace BucketAccessControl

/-- Reads one field into an entry. -/
def readField (name : String) (x : Json) (b : BucketAccessControl) : Read BucketAccessControl := do
  return { toAccessFields := ← AccessFields.readField name x b.toAccessFields }

theorem lossless : Lossless toJson ofJson where
  ne_null _ h := by cases h
  read_write b := by
    have h : Reads readField (optional "bucket" .str b.bucket ++ b.members) {} b := by
      refine (b.reads_bucket.append b.reads_members).lift BucketAccessControl.mk ?_
      intro m _ f g hm
      unfold readField
      rw [hm]
      rfl
    exact readWholeRecord_of_reads h rfl

end BucketAccessControl

namespace ObjectAccessControl

/-- Reads one field into an entry. -/
def readField (name : String) (x : Json) (o : ObjectAccessControl) : Read ObjectAccessControl :=
  match name with
  | "object" => do return { o with object := ← x.readOption fun y _ => y.readString }
  | "generation" => do return { o with generation := ← x.readOption fun y _ => y.readString }
  | _ => do return { o with toAccessFields := ← AccessFields.readField name x o.toAccessFields }

/-- A field that all entries have is read as in all of them. -/
theorem readField_of_ne {name : String} (h₁ : name ≠ "object") (h₂ : name ≠ "generation") {x : Json}
    {f g : AccessFields} (h : f.readField name x = .ok g) (object generation : Option String) :
    readField name x ⟨f, object, generation⟩ = .ok ⟨g, object, generation⟩ := by
  unfold readField
  split
  · exact absurd rfl h₁
  · exact absurd rfl h₂
  · rw [h]
    rfl

theorem lossless : Lossless toJson ofJson where
  ne_null _ h := by cases h
  read_write o := by
    obtain ⟨f, object, generation⟩ := o
    -- two fields of its own stand between the bucket and the fields that all entries have
    have hb : Reads readField (optional "bucket" .str f.bucket) {}
        ⟨{ bucket := f.bucket }, none, none⟩ := by
      refine f.reads_bucket.lift (mk · none none) fun m hm _ _ h => ?_
      have hn := fst_of_mem_optional hm
      exact readField_of_ne (by rw [hn]; decide) (by rw [hn]; decide) h none none
    have ho : Reads readField (optional "object" .str object) ⟨{ bucket := f.bucket }, none, none⟩
        ⟨{ bucket := f.bucket }, object, none⟩ :=
      Reads.trans_eq (lossless_string.optional (fun _ => rfl) rfl) rfl
    have hg : Reads readField (optional "generation" .str generation)
        ⟨{ bucket := f.bucket }, object, none⟩ ⟨{ bucket := f.bucket }, object, generation⟩ :=
      Reads.trans_eq (lossless_string.optional (fun _ => rfl) rfl) rfl
    have hm : Reads readField f.members ⟨{ bucket := f.bucket }, object, generation⟩
        ⟨f, object, generation⟩ := by
      refine f.reads_members.lift (mk · object generation) fun m hm _ _ h => ?_
      have hn := AccessFields.fst_mem_names hm
      refine readField_of_ne (fun he => ?_) (fun he => ?_) h object generation
      · rw [he] at hn
        exact absurd hn (by decide)
      · rw [he] at hn
        exact absurd hn (by decide)
    exact readWholeRecord_of_reads (((hb.append ho).append hg).append hm) rfl

end ObjectAccessControl

end CloudData.Wire
