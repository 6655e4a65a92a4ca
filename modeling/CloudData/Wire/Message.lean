/-
What every message has: an empty form, and a way to and from JSON.
-/
import CloudData.Json.Reader

namespace CloudData.Wire

/-- Messages. -/
class Message (α : Type) where
  /-- The message that says nothing. -/
  empty : α
  /-- The message as JSON. -/
  toJson : α → Json
  /-- The message that a JSON value holds. -/
  ofJson : Json → Json.Read α

end CloudData.Wire
