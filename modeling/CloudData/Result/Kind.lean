/-
Kinds of query results, and the codes that stand for them in batches. Codes are
compared by their number, so a number that was kept as unknown still finds its
kind; a code without a number finds none.
-/
import CloudData.Log.Event
import CloudData.Wire.Batch

namespace CloudData

/-- What a query gives: entities, keys, projected entities, or one of these that is found out from
each result. -/
inductive ResultKind
  | unknown
  | entity
  | key
  | projection
deriving DecidableEq, Inhabited, Repr

namespace ResultKind

/-- All kinds. -/
def all : List ResultKind := [.unknown, .entity, .key, .projection]

/-- The name of a kind. -/
def name : ResultKind → String
  | .unknown => "Unknown"
  | .entity => "Entity"
  | .key => "Key"
  | .projection => "ProjectionEntity"

/-- The name of the class of values that a kind gives. -/
def className : ResultKind → String
  | .unknown => "Any"
  | k => k.name

/-- The code of a kind. -/
def code? : ResultKind → Option Wire.ResultCode
  | .unknown => none
  | .entity => some .full
  | .key => some .keyOnly
  | .projection => some .projection

/-- The kind that a code stands for, if it stands for one. -/
def find? (code : Wire.OpenCode Wire.ResultCode) : Option ResultKind := do
  let n ← code.number?
  all.find? fun k => k.code?.map Wire.CodeSet.number == some n

/-- The kind of a code; unknown where there is no code, or none that stands for a kind. -/
def ofCode (code : Option (Wire.OpenCode Wire.ResultCode)) : ResultKind :=
  (code.bind find?).getD .unknown

/-- Whether results of kind `actual` can stand where results of kind `expected` are wanted. -/
def accepts (expected actual : ResultKind) : Bool := expected == .unknown || expected == actual

end ResultKind

/-- A code as log events show it. -/
def Wire.OpenCode.label {κ : Type} [Wire.CodeSet κ] : Wire.OpenCode κ → String
  | .known k => Wire.CodeSet.label k
  | .unknown (.number n) => "UnknownValue(Integer(" ++ intText n.toInt ++ "))"
  | .unknown (.name s) => "UnknownValue(String(" ++ quoted s ++ "))"

/-- What is said when the kind of a code is looked up: a code that stands for no kind is reported. -/
def ResultKind.lookupEvents (code : Option (Wire.OpenCode Wire.ResultCode)) : List Event :=
  match code.bind find? with
  | some _ => []
  | none =>
    let shown := match code with
      | some c => "Some(" ++ c.label ++ ")"
      | none => "None"
    [.say .debug ("no result type for wire code " ++ shown ++ ", using Unknown")]

end CloudData
