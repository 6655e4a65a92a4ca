/-
JSON values. A number is whole or not by the way it is written, so the two are
kept apart: a whole number is exact, any other is the nearest double.
-/
import CloudData.Number.Binary64

namespace CloudData

/-- A JSON value. The members of an object ascend by name when they come from text. -/
inductive Json
  | null
  | bool (b : Bool)
  | int (n : Int)
  | float (d : Binary64)
  | str (s : String)
  | arr (items : List Json)
  | obj (members : List (String × Json))
deriving Inhabited

namespace Json

/-- An array of strings. -/
def strings (xs : List String) : Json := .arr (xs.map .str)

/-- A string, or null where there is none. -/
def strOrNull : Option String → Json
  | some s => .str s
  | none => .null

/-- The member of that name, where the value is an object that has it and it is not null. -/
def member? (j : Json) (name : String) : Option Json :=
  match j with
  | .obj ms =>
    match ms.lookup name with
    | some .null => none
    | found => found
  | _ => none

end Json

end CloudData
