/-
Families of options. Requests for lists take a page size and a page token; pull
operations take the number of callbacks that may wait to be run.
-/
import CloudData.Parameter.Bag

namespace CloudData

/-- What a request for a list takes. -/
inductive ListParameter
  | pageSize
  | pageToken
deriving DecidableEq, Repr

instance : OptionKind ListParameter where
  name
    | .pageSize => "pageSize"
    | .pageToken => "pageToken"
  label
    | .pageSize => "PageSize"
    | .pageToken => "PageToken"

/-- An option of a request for a list. -/
abbrev ListOption := RequestOption ListParameter OptionValue

namespace ListOption

/-- How many results a page has at most. -/
def pageSize (n : Int32) : ListOption := ⟨.pageSize, some (.int n.toInt64)⟩

/-- Which page to give. -/
def pageToken (s : String) : ListOption := ⟨.pageToken, some (.str s)⟩

end ListOption

/-- What a pull operation takes. -/
inductive PullParameter
  | maxQueuedCallbacks
deriving DecidableEq, Repr

instance : OptionKind PullParameter where
  name | .maxQueuedCallbacks => "maxQueuedCallbacks"
  label | .maxQueuedCallbacks => "MaxQueuedCallbacks"

/-- An option of a pull operation. -/
abbrev PullOption := RequestOption PullParameter OptionValue

namespace PullOption

/-- How many callbacks may wait to be run. -/
def maxQueuedCallbacks (n : Int32) : PullOption := ⟨.maxQueuedCallbacks, some (.int n.toInt64)⟩

/-- How many callbacks may wait where nothing is said. -/
def defaultMaxQueuedCallbacks : Int32 := 100

/-- How many callbacks may wait: what the options say, if that is a whole number of 32 bits. -/
def queueLimit (b : OptionBag PullParameter OptionValue) : Int32 :=
  match b.getInt? .maxQueuedCallbacks with
  | some n => if n.toInt32.toInt64 = n then n.toInt32 else defaultMaxQueuedCallbacks
  | none => defaultMaxQueuedCallbacks

end PullOption

end CloudData
