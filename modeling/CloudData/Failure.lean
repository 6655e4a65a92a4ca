/-
Failures: what kind of thing went wrong, and why. The text of a failure is the
phrase of its kind and the text of its cause.
-/
import CloudData.Result.Kind
import CloudData.Text.Base64

namespace CloudData

/-- What kind of thing went wrong. -/
inductive FailureKind
  | invalidArgument
  | serialization
  | deserialization
deriving DecidableEq, Repr

/-- The name of the kind. -/
def FailureKind.name : FailureKind → String
  | .invalidArgument => "InvalidArgument"
  | .serialization => "Serialization"
  | .deserialization => "Deserialization"

/-- The phrase that the text of a failure starts with. -/
def FailureKind.phrase : FailureKind → String
  | .invalidArgument => "invalid argument: "
  | .serialization => "cannot serialize the request "
  | .deserialization => "cannot deserialize the response "

/-- The two lists of properties that only projection queries may have. -/
inductive ProjectionList
  | projection
  | distinctOn
deriving DecidableEq, Repr

/-- The name of the list. -/
def ProjectionList.name : ProjectionList → String
  | .projection => "projection"
  | .distinctOn => "distinct_on"

/-- Why a structured query cannot be built. -/
inductive QueryFault
  | negativeOffset (n : Int32)
  | nonPositiveLimit (n : Int32)
  | projectionNotSupported (list : ProjectionList)
deriving DecidableEq

/-- The fault in words. -/
def QueryFault.message : QueryFault → String
  | .negativeOffset n => "offset must be non-negative, got " ++ intText n.toInt
  | .nonPositiveLimit n => "limit must be positive, got " ++ intText n.toInt
  | .projectionNotSupported l => l.name ++ " is only supported in projection entity queries"

/-- Why a value has no form as a request parameter. -/
inductive FormatFault
  | notFinite (d : Binary64)
deriving DecidableEq

/-- The fault in words. -/
def FormatFault.message : FormatFault → String
  | .notFinite d =>
    "cannot format as request parameter " ++
      quoted (d.plainText ++ " cannot be sent as a query parameter")

/-- Why something failed. -/
inductive Cause
  | mismatch (expected actual : ResultKind)
  | query (fault : QueryFault)
  | cursor (fault : Base64.Fault)
  | format (fault : FormatFault)
  | text (s : String)
  | failure (kind : FailureKind) (cause : Cause)
deriving DecidableEq

/-- The cause in words. -/
def Cause.message : Cause → String
  | .mismatch expected actual =>
    "unexpected result type " ++ actual.name ++ " for a query of type " ++ expected.name
  | .query fault => fault.message
  | .cursor fault => "cannot decode cursor: " ++ fault.message
  | .format fault => fault.message
  | .text s => s
  | .failure kind cause => kind.phrase ++ cause.message

/-- A failure. -/
structure Failure where
  kind : FailureKind
  cause : Cause
deriving DecidableEq

namespace Failure

/-- The failure in words. -/
def message (f : Failure) : String := f.kind.phrase ++ f.cause.message

/-- A failure of that kind which this one is the cause of. -/
def within (f : Failure) (kind : FailureKind) : Failure := ⟨kind, .failure f.kind f.cause⟩

end Failure

end CloudData
