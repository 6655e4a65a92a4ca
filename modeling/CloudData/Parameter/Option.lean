/-
Options of requests: a kind, and a value that may be absent.
-/
import CloudData.Parameter.Text

namespace CloudData

/-- The value of most options. -/
inductive OptionValue
  | bool (b : Bool)
  | int (n : Int64)
  | str (s : String)
deriving DecidableEq

namespace OptionValue

/-- The value as a boolean, if it is one. -/
def asBool? : OptionValue → Option Bool
  | .bool b => some b
  | _ => none

/-- The value as a whole number, if it is one. -/
def asInt? : OptionValue → Option Int64
  | .int n => some n
  | _ => none

/-- The value as a string, if it is one. -/
def asStr? : OptionValue → Option String
  | .str s => some s
  | _ => none

/-- The value as text. -/
def text : OptionValue → String
  | .bool b => if b then "true" else "false"
  | .int n => intText n.toInt
  | .str s => s

end OptionValue

instance : RequestParameter OptionValue := ⟨fun v => .ok v.text⟩

/-- Kinds of options: each is a parameter of some name, and has a label for messages. -/
class OptionKind (κ : Type) where
  name : κ → String
  label : κ → String

/-- An option. -/
structure RequestOption (κ ν : Type) where
  kind : κ
  value : Option ν
deriving DecidableEq

/-- An option from parts that may be missing. The kind is required. -/
def RequestOption.ofParts {κ ν : Type} (kind : Option κ) (value : Option ν) :
    Except Failure (RequestOption κ ν) :=
  match kind with
  | some k => .ok ⟨k, value⟩
  | none => .error ⟨.invalidArgument, .text "the option kind is required"⟩

end CloudData
