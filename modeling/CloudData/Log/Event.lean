/-
Log events: a level and named fields in order, the message among them.
-/
import CloudData.Text.Digits
import CloudData.Text.Quoted

namespace CloudData

/-- How much an event matters. -/
inductive Level
  | trace
  | debug
  | info
  | warn
  | error
deriving DecidableEq, Repr

/-- The level in capitals. -/
def Level.text : Level → String
  | .trace => "TRACE"
  | .debug => "DEBUG"
  | .info => "INFO"
  | .warn => "WARN"
  | .error => "ERROR"

/-- The value of a field. -/
inductive FieldValue
  | text (s : String)
  | quotedText (s : String)
  | number (n : Int)
  | flag (b : Bool)
deriving DecidableEq, Repr

/-- The value as an event shows it. -/
def FieldValue.shown : FieldValue → String
  | .text s => s
  | .quotedText s => quoted s
  | .number n => intText n
  | .flag true => "true"
  | .flag false => "false"

/-- Something that happened. -/
structure Event where
  level : Level
  fields : List (String × FieldValue)
deriving DecidableEq, Repr

/-- An event with a message and nothing else. -/
def Event.say (level : Level) (message : String) : Event := ⟨level, [("message", .text message)]⟩

/-- An event with a message and other fields after it. -/
def Event.sayWith (level : Level) (message : String) (fields : List (String × FieldValue)) : Event :=
  ⟨level, ("message", .text message) :: fields⟩

/-- The level, and each field with its name. -/
def Event.text (e : Event) : String :=
  String.join (e.level.text :: e.fields.map fun f => " " ++ f.1 ++ "=" ++ f.2.shown)

end CloudData
