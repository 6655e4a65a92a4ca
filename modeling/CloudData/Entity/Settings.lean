/-
Index settings of property values. They are read from and written into the
message of a value, element by element for arrays; a list of element settings
that are all empty is not kept.
-/
import CloudData.NameMap
import CloudData.Wire.Entity

namespace CloudData

/-- What is known about how a value is indexed, and its elements if it is an array. -/
structure Settings where
  excludeFromIndexes : Option Bool := none
  meaning : Option Int32 := none
  elements : List Settings := []

namespace Settings

instance : Inhabited Settings := ⟨{}⟩

mutual

/-- Decides equality of settings. -/
def decEq : (s t : Settings) → Decidable (s = t)
  | ⟨x₁, m₁, es₁⟩, ⟨x₂, m₂, es₂⟩ =>
    match decEqAll es₁ es₂ with
    | isTrue h =>
      if h' : x₁ = x₂ ∧ m₁ = m₂ then isTrue (by rw [h, h'.1, h'.2])
      else isFalse (by intro he; cases he; exact h' ⟨rfl, rfl⟩)
    | isFalse h => isFalse (by intro he; cases he; exact h rfl)

/-- Decides equality of lists of settings. -/
def decEqAll : (ss ts : List Settings) → Decidable (ss = ts)
  | [], [] => isTrue rfl
  | s :: ss, t :: ts =>
    match decEq s t, decEqAll ss ts with
    | isTrue h, isTrue h' => isTrue (by rw [h, h'])
    | isFalse h, _ => isFalse (by intro he; cases he; exact h rfl)
    | _, isFalse h => isFalse (by intro he; cases he; exact h rfl)
  | [], _ :: _ => isFalse (by intro h; cases h)
  | _ :: _, [] => isFalse (by intro h; cases h)

end

instance : DecidableEq Settings := decEq

/-- Whether the value is said to be excluded; nothing said means that it is not. -/
def isExcluded (s : Settings) : Bool := s.excludeFromIndexes.getD false

/-- There is nothing to carry. -/
def isEmpty (s : Settings) : Bool :=
  s.excludeFromIndexes.isNone && s.meaning.isNone && s.elements.isEmpty

/-- Element settings as they are kept: none at all if they are all empty. -/
def collapse (es : List Settings) : List Settings := if es.all isEmpty then [] else es

mutual

/-- The settings in the message of a value, whatever its content. -/
def ofWire : Wire.Value → Settings
  | ⟨_, _, _, _, _, _, _, none, m, x⟩ => ⟨x, m, []⟩
  | ⟨_, _, _, _, _, _, _, some vs, m, x⟩ => ⟨x, m, collapse (allOfWire vs)⟩

/-- The settings of each element. -/
def allOfWire : List Wire.Value → List Settings
  | [] => []
  | v :: vs => ofWire v :: allOfWire vs

end

mutual

/-- Writes the settings into the message of a value, and those of elements into its elements. -/
def apply : Settings → Wire.Value → Wire.Value
  | ⟨x, m, es⟩, v =>
    { v with
      meaning := m
      excludeFromIndexes := x
      arrayValue :=
        match v.arrayValue with
        | some vs => some (applyAll es vs)
        | none => none }

/-- Writes each settings into the value at its position, as far as both lists go. -/
def applyAll : List Settings → List Wire.Value → List Wire.Value
  | s :: ss, v :: vs => apply s v :: applyAll ss vs
  | [], vs => vs
  | _ :: _, [] => []

end

/-- Keeps the settings under a name; empty settings remove those that were there. -/
def put (m : NameMap Settings) (name : String) (s : Settings) : NameMap Settings :=
  if s.isEmpty then m.erase name else m.insert name s

/-- The settings of named values. -/
def ofProperties : List (String × Wire.Value) → NameMap Settings
  | [] => {}
  | (n, v) :: rest => put (ofProperties rest) n (ofWire v)

/-- Writes the settings kept under a name, if there are any, into a value. -/
def applyNamed (m : NameMap Settings) (name : String) (v : Wire.Value) : Wire.Value :=
  match m.find? name with
  | some s => s.apply v
  | none => v

end Settings

end CloudData
