/-
Values as text in requests. Most have a form; a double that is not finite has
none. The form of bytes is that of any encoder; the one at hand is that of addresses,
without padding. A parameter that is absent is left out of the request.
-/
import CloudData.Failure

namespace CloudData

/-- Values that have a form in requests, or are refused one. -/
class RequestParameter (α : Type) where
  format : α → Except FormatFault String

instance : RequestParameter Int32 := ⟨fun n => .ok (intText n.toInt)⟩
instance : RequestParameter Int64 := ⟨fun n => .ok (intText n.toInt)⟩
instance : RequestParameter UInt32 := ⟨fun n => .ok (intText n.toNat)⟩
instance : RequestParameter UInt64 := ⟨fun n => .ok (intText n.toNat)⟩
instance : RequestParameter String := ⟨fun s => .ok s⟩
instance : RequestParameter Bool := ⟨fun b => .ok (if b then "true" else "false")⟩
instance : RequestParameter Binary64 :=
  ⟨fun d => if d.isFinite then .ok d.plainText else .error (.notFinite d)⟩

/-- Bytes have the form that an encoder gives them. -/
@[reducible] def RequestParameter.ofEncoder (encode : Bytes → String) : RequestParameter Bytes :=
  ⟨fun bs => .ok (encode bs)⟩

instance : RequestParameter Bytes := .ofEncoder (Base64.unpadded .urlSafe)

/-- Values that may be absent from a request. -/
class QueryParameter (α : Type) where
  format? : α → Option (Except FormatFault String)

instance {α : Type} [RequestParameter α] : QueryParameter α := ⟨fun x => some (RequestParameter.format x)⟩
instance {α : Type} [QueryParameter α] : QueryParameter (Option α) := ⟨fun x => x.bind QueryParameter.format?⟩

/-- The parameter of that name, unless it is absent. -/
def queryParameter {α : Type} [QueryParameter α] (name : String) (x : α) :
    Except FormatFault (Option (String × String)) :=
  match QueryParameter.format? x with
  | none => .ok none
  | some (.ok text) => .ok (some (name, text))
  | some (.error fault) => .error fault

end CloudData
