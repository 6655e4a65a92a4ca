/-
Enumerations in messages. An open one has numbers and names, and a code that is
not among the known ones is kept as it was received; a closed one has names
only and refuses others.
-/
import CloudData.Wire.Message

namespace CloudData.Wire

open Json

/-! ## Open enumerations -/

/-- A code that is not known, as it was received. -/
inductive UnknownCode
  | number (n : Int32)
  | name (s : String)
deriving DecidableEq

/-- The known codes of an open enumeration: each has a number, a name on the wire, and a label that
log events show. No two share a number or a name. -/
class CodeSet (κ : Type) where
  /-- The full name of the enumeration. -/
  enumeration : String
  /-- The known codes. The first is the default. -/
  codes : List κ
  default : κ
  number : κ → Int32
  name : κ → String
  label : κ → String
  mem_codes : ∀ k, k ∈ codes
  number_injective : ∀ k l, number k = number l → k = l
  name_injective : ∀ k l, name k = name l → k = l

/-- A code of an open enumeration. -/
inductive OpenCode (κ : Type)
  | known (k : κ)
  | unknown (u : UnknownCode)
deriving DecidableEq

namespace OpenCode

variable {κ : Type} [CodeSet κ]

instance : Inhabited (OpenCode κ) := ⟨.known CodeSet.default⟩

/-- The number of a code; a code received as an unknown name has none. -/
def number? : OpenCode κ → Option Int32
  | .known k => some (CodeSet.number k)
  | .unknown (.number n) => some n
  | .unknown (.name _) => none

/-- The name of a code; a code received as an unknown number has none. -/
def name? : OpenCode κ → Option String
  | .known k => some (CodeSet.name k)
  | .unknown (.number _) => none
  | .unknown (.name s) => some s

/-- The code with that number. -/
def ofNumber (n : Int32) : OpenCode κ :=
  match (CodeSet.codes : List κ).find? (fun k => CodeSet.number k == n) with
  | some k => .known k
  | none => .unknown (.number n)

/-- The code with that name. -/
def ofName (s : String) : OpenCode κ :=
  match (CodeSet.codes : List κ).find? (fun k => CodeSet.name k == s) with
  | some k => .known k
  | none => .unknown (.name s)

/-- The name of a code, or else its number. -/
def text : OpenCode κ → String
  | .known k => CodeSet.name k
  | .unknown (.number n) => intText n.toInt
  | .unknown (.name s) => s

/-- The code as JSON: its name, or else its number. -/
def toJson : OpenCode κ → Json
  | .known k => .str (CodeSet.name k)
  | .unknown (.number n) => ofInt32 n
  | .unknown (.name s) => .str s

/-- The code that a JSON value holds, by name or by number. -/
def ofJson : Json → Read (OpenCode κ)
  | .str s => .ok (ofName s)
  | .int n =>
    if Int32.minValue.toInt ≤ n ∧ n ≤ Int32.maxValue.toInt then .ok (ofNumber (Int32.ofInt n))
    else .error (.codeRange n (CodeSet.enumeration κ))
  | j => .error (.codeForm j (CodeSet.enumeration κ))

end OpenCode

instance {κ : Type} [CodeSet κ] : Message (OpenCode κ) := ⟨default, OpenCode.toJson, OpenCode.ofJson⟩

/-! ## Closed enumerations -/

/-- The codes of a closed enumeration and their names, no two alike. -/
class NameSet (κ : Type) where
  codes : List κ
  default : κ
  name : κ → String
  mem_codes : ∀ k, k ∈ codes
  name_injective : ∀ k l, name k = name l → k = l

namespace NameSet

variable {κ : Type} [NameSet κ]

/-- The code with that name. -/
def ofName? (s : String) : Option κ := (codes : List κ).find? fun k => name k == s

/-- The code as JSON. -/
def toJson (k : κ) : Json := .str (name k)

/-- The code that a JSON value holds: a name, or an object whose only member is a null of that
name. -/
def ofJson : Json → Read κ
  | .str s | .obj [(s, .null)] =>
    match ofName? s with
    | some k => .ok k
    | none => .error .form
  | _ => .error .form

end NameSet

instance {κ : Type} [NameSet κ] : Message κ := ⟨NameSet.default, NameSet.toJson, NameSet.ofJson⟩

end CloudData.Wire
