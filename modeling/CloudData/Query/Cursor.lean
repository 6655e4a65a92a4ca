/-
Cursors: positions in the results of a query, as bytes that mean nothing to the
client. A cursor is saved as text that is safe in addresses, and only such text
is taken back. What writes and what reads such text are parameters; the codec at
hand stands in for them where none is given.
-/
import CloudData.Failure

namespace CloudData

/-- A position in the results of a query. -/
structure Cursor where
  bytes : Bytes
deriving DecidableEq, Inhabited

namespace Cursor

/-- The text of a cursor. -/
def toUrlSafe (c : Cursor) (encode : Bytes → String := Base64.padded .urlSafe) : String :=
  encode c.bytes

/-- The cursor that a text was made from. -/
def ofUrlSafe (s : String)
    (decode : String → Except Base64.Fault Bytes := Base64.decodeText .urlSafe .required) :
    Except Failure Cursor :=
  match decode s with
  | .ok bs => .ok ⟨bs⟩
  | .error fault => .error ⟨.invalidArgument, .cursor fault⟩

end Cursor

end CloudData
