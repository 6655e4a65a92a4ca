/-
Keys: where an entity lives, and the path from the root to it. The parents of a
key are the keys of its proper nonempty prefixes, nearest first.
-/

namespace CloudData

/-- What tells an entity from others of its kind under one parent. -/
inductive Identifier
  | id (n : Int64)
  | name (s : String)
deriving DecidableEq

/-- A step of a path; without an identifier it is incomplete. -/
structure PathElement where
  kind : String
  identifier : Option Identifier := none
deriving DecidableEq, Inhabited

namespace PathElement

/-- The number that identifies the element, if a number does. -/
def id? (e : PathElement) : Option Int64 :=
  match e.identifier with
  | some (.id n) => some n
  | _ => none

/-- The name that identifies the element, if a name does. -/
def name? (e : PathElement) : Option String :=
  match e.identifier with
  | some (.name s) => some s
  | _ => none

end PathElement

/-- The key of an entity. An empty database or namespace is the default one. -/
structure Key where
  projectId : String := ""
  databaseId : String := ""
  namespaceId : String := ""
  path : List PathElement := []
deriving DecidableEq, Inhabited

namespace Key

/-- The elements before the last one. -/
def ancestors (k : Key) : List PathElement := k.path.dropLast

/-- The kind of the entity. -/
def kind? (k : Key) : Option String := k.path.getLast?.map (·.kind)

/-- The number of the entity among those of its kind. -/
def id? (k : Key) : Option Int64 := k.path.getLast?.bind (·.id?)

/-- The name of the entity among those of its kind. -/
def name? (k : Key) : Option String := k.path.getLast?.bind (·.name?)

/-- The last element has an identifier. -/
def isComplete (k : Key) : Bool := k.path.getLast?.any fun e => e.identifier.isSome

/-- The key of the entity above, if the path has two elements or more. -/
def parent? (k : Key) : Option Key :=
  if k.ancestors.isEmpty then none else some { k with path := k.ancestors }

theorem length_path_of_parent? {k p : Key} (h : k.parent? = some p) :
    p.path.length < k.path.length := by
  simp only [parent?] at h
  split at h
  · cases h
  · rename_i hne
    cases h
    have : k.path ≠ [] := by
      intro h; simp [ancestors, h] at hne
    have := List.length_pos_iff.2 this
    simp only [ancestors, List.length_dropLast]; omega

/-- The parent, its parent, and so on. -/
def parents (k : Key) : List Key :=
  match _ : k.parent? with
  | some p => p :: parents p
  | none => []
termination_by k.path.length
decreasing_by exact length_path_of_parent? (by assumption)

end Key

end CloudData
