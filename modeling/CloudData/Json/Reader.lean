/-
Reading JSON values into messages. A reader says what form it takes and refuses
every other. Records are read from objects, by name, and from arrays, by
position; lists, maps and records hand on that their parts are smaller than the
whole, so that messages inside messages can be read by recursion.

Some of this is not said by the messages but assumed of the format they are in. Of
records: that they can be arrays, which may stop early, though not where every field
must be there, and that members of other names are skipped. Of fields: that null is
absence where a field may be absent, and an error where it may not. Of leaves: that
padding of bytes may be left out, that a whole number is a double as well, and that a
double which is not finite is written as null and not read back.
-/
import CloudData.Json.Basic
import CloudData.NameMap
import CloudData.Number.Shortest
import CloudData.Text.Base64
import CloudData.Text.Digits

namespace CloudData

/-- Why a JSON value is not the message that was asked for. -/
inductive ReadError
  /-- It has another form. -/
  | form
  /-- A code of an enumeration is out of the range of 32 bits. -/
  | codeRange (code : Int) (enumeration : String)
  /-- The code of an enumeration is neither a name nor a number. -/
  | codeForm (found : Json) (enumeration : String)

namespace Json

/-- What kind of value it is, as far as the message of an error shows it. -/
def kindText : Json → String
  | .null => "null"
  | .bool true => "boolean `true`"
  | .bool false => "boolean `false`"
  | .int n => "integer `" ++ intText n ++ "`"
  | .float d => "floating point `" ++ d.jsonText ++ "`"
  | .str s => "string \"" ++ s ++ "\""
  | .arr _ => "sequence"
  | .obj _ => "map"

end Json

/-- The message of an error. A value of another form has none of its own. -/
def ReadError.message? : ReadError → Option String
  | .form => none
  | .codeRange n e => some ("out of range enum value " ++ intText n ++ " for " ++ e)
  | .codeForm x e =>
    some ("invalid type: " ++ x.kindText ++ ", expected a " ++ e ++
      " enum value in string or integer format")

namespace Json

variable {α : Type}

/-- The outcome of reading. -/
abbrev Read (α : Type) := Except ReadError α

/-! ## Leaves -/

/-- A boolean. -/
def readBool : Json → Read Bool
  | .bool b => .ok b
  | _ => .error .form

/-- A string. -/
def readString : Json → Read String
  | .str s => .ok s
  | _ => .error .form

/-- A whole number of 32 bits. -/
def readInt32 : Json → Read Int32
  | .int n =>
    if Int32.minValue.toInt ≤ n ∧ n ≤ Int32.maxValue.toInt then .ok (Int32.ofInt n) else .error .form
  | _ => .error .form

/-- A whole number of 64 bits, written in a string. -/
def readInt64 : Json → Read Int64
  | .str s =>
    match int64OfText? s with
    | some n => .ok n
    | none => .error .form
  | _ => .error .form

/-- A double that is finite. -/
def finite (d : Binary64) : Read Binary64 := if d.isFinite then .ok d else .error .form

/-- A number of any form, as the nearest double. -/
def readDouble : Json → Read Binary64
  | .int n => finite (Binary64.ofInt n)
  | .float d => finite d
  | _ => .error .form

/-- Bytes, in base 64 with the standard alphabet; padding may be left out. -/
def readBytes : Json → Read Bytes
  | .str s =>
    match Base64.decodeText .standard .optional s with
    | .ok bs => .ok bs
    | .error _ => .error .form
  | _ => .error .form

/-! ## Parts -/

theorem sizeOf_lt_arr {x : Json} {xs : List Json} (h : x ∈ xs) : sizeOf x < sizeOf (Json.arr xs) := by
  have := List.sizeOf_lt_of_mem h
  simp only [Json.arr.sizeOf_spec]; omega

theorem sizeOf_lt_obj {m : String × Json} {ms : List (String × Json)} (h : m ∈ ms) :
    sizeOf m.2 < sizeOf (Json.obj ms) := by
  have h₁ := List.sizeOf_lt_of_mem h
  have h₂ : sizeOf m.2 < sizeOf m := by
    obtain ⟨n, x⟩ := m
    simp only [Prod.mk.sizeOf_spec]; omega
  simp only [Json.obj.sizeOf_spec]; omega

/-- A field that may be absent: null is absence. -/
def readOption (j : Json) (read : (x : Json) → sizeOf x ≤ sizeOf j → Read α) : Read (Option α) :=
  match j with
  | .null => .ok none
  | x => some <$> read x (Nat.le_refl _)

/-- The items of an array, in order. -/
def readList (j : Json) (read : (x : Json) → sizeOf x < sizeOf j → Read α) : Read (List α) :=
  match j with
  | .arr xs => xs.attach.mapM fun x => read x.1 (sizeOf_lt_arr x.2)
  | _ => .error .form

/-- The members of an object, by name. -/
def readMap (j : Json) (read : (x : Json) → sizeOf x < sizeOf j → Read α) : Read (NameMap α) :=
  match j with
  | .obj ms =>
    NameMap.ofList <$> ms.attach.mapM fun m => (m.1.1, ·) <$> read m.1.2 (sizeOf_lt_obj m.2)
  | _ => .error .form

/-- A record: from an object the members are taken in their order, and from an array the items in
the order of `names`; `step` reads one field into what has been read so far, and leaves alone a
name that it does not know. An array may stop early and may not go on. -/
def readRecord (j : Json) (names : List String) (start : α)
    (step : String → (x : Json) → sizeOf x < sizeOf j → α → Read α) : Read α :=
  match j with
  | .obj ms => ms.attach.foldlM (fun a m => step m.1.1 m.1.2 (sizeOf_lt_obj m.2) a) start
  | .arr xs => do
    let a ← (names.zip xs.attach).foldlM (fun a p => step p.1 p.2.1 (sizeOf_lt_arr p.2.2) a) start
    if names.length < xs.length then .error .form else .ok a
  | _ => .error .form

/-- A record whose array form must have every field. -/
def readWholeRecord (j : Json) (names : List String) (start : α)
    (step : String → Json → α → Read α) : Read α :=
  match j with
  | .arr xs =>
    if xs.length < names.length then .error .form
    else readRecord j names start fun name x _ a => step name x a
  | _ => readRecord j names start fun name x _ a => step name x a

/-! ## Writing fields -/

/-- The member of a field that may be absent. -/
def optional (name : String) (write : α → Json) : Option α → List (String × Json)
  | some x => [(name, write x)]
  | none => []

/-- The member of a list that is left out when empty. -/
def unlessEmpty (name : String) (write : α → Json) : List α → List (String × Json)
  | [] => []
  | xs => [(name, .arr (xs.map write))]

/-- A whole number of 32 bits. -/
def ofInt32 (n : Int32) : Json := .int n.toInt

/-- A whole number of 64 bits, in a string. -/
def ofInt64 (n : Int64) : Json := .str (intText n.toInt)

/-- A double; JSON has no text for one that is not finite, so null stands for it. -/
def ofDouble (d : Binary64) : Json := if d.isFinite then .float d else .null

/-- Bytes in base 64, padded. -/
def ofBytes (bs : Bytes) : Json := .str (Base64.padded .standard bs)

end Json

end CloudData
