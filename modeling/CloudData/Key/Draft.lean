/-
Drafts of keys. A draft takes ancestors one after the other, and its last
element apart; of several kinds or identifiers the last one counts.
-/
import CloudData.Key.Basic

namespace CloudData

namespace Key

/-- A key in the making. -/
structure Draft where
  projectId : String
  databaseId : String := ""
  namespaceId : String := ""
  ancestors : List PathElement := []
  kind : String
  identifier : Option Identifier := none

/-- A change to a draft. -/
inductive Change
  | databaseId (s : String)
  | namespaceId (s : String)
  | ancestor (e : PathElement)
  | kind (s : String)
  | identifier (i : Identifier)

namespace Draft

/-- Makes one change. -/
def apply (d : Draft) : Change → Draft
  | .databaseId s => { d with databaseId := s }
  | .namespaceId s => { d with namespaceId := s }
  | .ancestor e => { d with ancestors := d.ancestors ++ [e] }
  | .kind s => { d with kind := s }
  | .identifier i => { d with identifier := some i }

/-- Makes changes one after the other. -/
def applyAll (d : Draft) (changes : List Change) : Draft := changes.foldl apply d

/-- The key of the draft: the ancestors, and the element of its kind and identifier. -/
def build (d : Draft) : Key :=
  { projectId := d.projectId, databaseId := d.databaseId, namespaceId := d.namespaceId
    path := d.ancestors ++ [⟨d.kind, d.identifier⟩] }

end Draft

end Key

end CloudData
