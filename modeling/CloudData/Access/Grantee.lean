/-
Who holds a grant, and the text that says so: a word before the first dash tells
users, groups, domains and teams of projects apart, two names stand for everyone
and for everyone who is signed in, and any other text is kept as it is.
-/
import CloudData.Log.Event

namespace CloudData.Access

/-- The teams of a project. -/
inductive Team
  | owners
  | editors
  | viewers
deriving DecidableEq, Repr

namespace Team

/-- The name of a team. -/
def name : Team → String
  | .owners => "owners"
  | .editors => "editors"
  | .viewers => "viewers"

/-- The team of that name. -/
def ofName? (s : String) : Option Team := [owners, editors, viewers].find? (·.name == s)

end Team

/-- Who holds a grant. -/
inductive Grantee
  | domain (name : String)
  | group (email : String)
  | user (email : String)
  | project (team : Team) (project : String)
  | raw (text : String)
deriving DecidableEq

namespace Grantee

/-- Stands for everyone. -/
def allUsersName : String := "allUsers"

/-- Stands for everyone who is signed in. -/
def allAuthenticatedUsersName : String := "allAuthenticatedUsers"

/-- Everyone, signed in or not. -/
def allUsers : Grantee := .user allUsersName

/-- Everyone who is signed in. -/
def allAuthenticatedUsers : Grantee := .user allAuthenticatedUsersName

/-- Whether a text is one of the two names that stand for many users. -/
def isSpecial (s : String) : Bool := s == allUsersName || s == allAuthenticatedUsersName

/-- The name of what a grantee is. -/
def typeName : Grantee → String
  | .domain _ => "Domain"
  | .group _ => "Group"
  | .user _ => "User"
  | .project .. => "Project"
  | .raw _ => "Unknown"

/-- The text of a grantee. -/
def toWire : Grantee → String
  | .domain d => "domain-" ++ d
  | .group e => "group-" ++ e
  | .user e => if isSpecial e then e else "user-" ++ e
  | .project t p => "project-" ++ t.name ++ "-" ++ p
  | .raw s => s

/-- What follows `start` in a text that begins with it. -/
def after? : List Char → List Char → Option (List Char)
  | [], cs => some cs
  | s :: ss, c :: cs => if s = c then after? ss cs else none
  | _ :: _, [] => none

/-- What follows `start` in a text that begins with it. -/
def stripStart? (start text : String) : Option String :=
  (after? start.toList text.toList).map String.ofList

/-- The text before the first dash and the text after it. -/
def splitDash? (text : String) : Option (String × String) :=
  match text.toList.dropWhile (· ≠ '-') with
  | _ :: rest => some (String.ofList (text.toList.takeWhile (· ≠ '-')), String.ofList rest)
  | [] => none

/-- The team and the project in what follows the word for projects. -/
def ofProjectText? (text : String) : Option Grantee := do
  let (team, rest) ← splitDash? text
  return .project (← Team.ofName? team) rest

/-- The grantee that a text names, if it has one of the known forms. -/
def recognize? (s : String) : Option Grantee :=
  if isSpecial s then some (.user s)
  else
    match stripStart? "user-" s with
    | some e => some (.user e)
    | none =>
      match stripStart? "group-" s with
      | some e => some (.group e)
      | none =>
        match stripStart? "domain-" s with
        | some d => some (.domain d)
        | none => (stripStart? "project-" s).bind ofProjectText?

/-- The grantee of a text; one that has none of the known forms is kept as it is. -/
def ofWire (s : String) : Grantee := (recognize? s).getD (.raw s)

/-- What is said while a text is read. -/
def readEvents (s : String) : List Event :=
  match recognize? s with
  | some _ => []
  | none => [.say .debug ("unrecognized ACL entity " ++ quoted s ++ ", keeping it as a raw entity")]

end Grantee

end CloudData.Access
