/-
Queries in text. Binding sites are named or numbered; bindings are set by name
or added one after the other, and both kinds are cleared together.
-/
import CloudData.Entity.Message
import CloudData.Query.Cursor
import CloudData.Wire.Query

namespace CloudData

/-- What stands for a binding site. -/
inductive Binding
  | value (v : Value)
  | cursor (c : Cursor)

namespace Binding

instance : Inhabited Binding := ⟨.value .null⟩

/-- Equal, with doubles compared as numbers. -/
def alike : Binding → Binding → Bool
  | .value v, .value w => v.alike w
  | .cursor c, .cursor d => c == d
  | _, _ => false

/-- The message of a binding. -/
def toWire : Binding → Wire.GqlQueryParameter
  | .value v => { value := some v.toWire }
  | .cursor c => { cursor := some c.bytes }

end Binding

/-- A query in text that gives results of kind `k`. -/
structure GqlQuery (k : ResultKind) where
  queryString : String
  namespaceId : Option String := none
  allowLiterals : Bool := false
  named : NameMap Binding := {}
  positional : List Binding := []

namespace GqlQuery

variable {k : ResultKind}

/-- Equal, with doubles compared as numbers. -/
def alike (q r : GqlQuery k) : Bool :=
  q.queryString == r.queryString && q.namespaceId == r.namespaceId &&
    q.allowLiterals == r.allowLiterals && q.named.agrees Binding.alike r.named &&
    q.positional.isEqv r.positional Binding.alike

/-- A change to a query. -/
inductive Change
  | queryString (s : String)
  | namespaceId (s : String)
  | allowLiterals (b : Bool)
  | bind (name : String) (b : Binding)
  | add (b : Binding)
  | clear

/-- Makes one change. Clearing concerns bindings only. -/
def apply (q : GqlQuery k) : Change → GqlQuery k
  | .queryString s => { q with queryString := s }
  | .namespaceId s => { q with namespaceId := some s }
  | .allowLiterals b => { q with allowLiterals := b }
  | .bind n b => { q with named := q.named.insert n b }
  | .add b => { q with positional := q.positional ++ [b] }
  | .clear => { q with named := {}, positional := [] }

/-- Makes changes one after the other. -/
def applyAll (q : GqlQuery k) (changes : List Change) : GqlQuery k := changes.foldl apply q

/-- The message of a query. -/
def toWire (q : GqlQuery k) : Wire.GqlQuery :=
  { queryString := q.queryString
    allowLiterals := some q.allowLiterals
    namedBindings := q.named.mapValues Binding.toWire
    positionalBindings := q.positional.map Binding.toWire }

end GqlQuery

end CloudData
