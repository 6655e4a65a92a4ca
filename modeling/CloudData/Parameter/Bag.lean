/-
Bags of options: the options of one request, each kind at most once. A bag does
not depend on the order in which it was filled, and neither do the parameters
made of it, which are sorted by name.
-/
import CloudData.Parameter.Option

namespace CloudData

/-- Values that are compared by an equality of their own. -/
class Comparable (α : Type) where
  alike : α → α → Bool

/-- Most values are alike if they are the same. -/
instance (priority := low) {α : Type} [DecidableEq α] : Comparable α := ⟨fun x y => x == y⟩

/-- Doubles are compared as numbers: one that is no number is not even alike to itself. -/
instance : Comparable Binary64 := ⟨Binary64.alike⟩

/-- Values that may be absent are alike if both are, or if neither is and they are. -/
instance {α : Type} [Comparable α] : Comparable (Option α) where
  alike
    | none, none => true
    | some x, some y => Comparable.alike x y
    | _, _ => false

/-- The options of a request. -/
structure OptionBag (κ ν : Type) where
  options : List (RequestOption κ ν) := []
  distinct : (options.map (·.kind)).Nodup := by exact List.nodup_nil

namespace OptionBag

variable {κ ν : Type}

/-- How many options there are. -/
def size (b : OptionBag κ ν) : Nat := b.options.length

/-- Whether there are none. -/
def isEmpty (b : OptionBag κ ν) : Bool := b.options.isEmpty

variable [DecidableEq κ]

/-- The option of a kind. -/
def find? (b : OptionBag κ ν) (k : κ) : Option (RequestOption κ ν) := b.options.find? (·.kind == k)

/-- Whether there is an option of that kind, with or without a value. -/
def contains (b : OptionBag κ ν) (k : κ) : Bool := (b.find? k).isSome

/-- The value of the option of a kind. -/
def get? (b : OptionBag κ ν) (k : κ) : Option ν := (b.find? k).bind (·.value)

/-- Adds an option, unless there is one of its kind. -/
def add [OptionKind κ] (b : OptionBag κ ν) (o : RequestOption κ ν) : Except Failure (OptionBag κ ν) :=
  if h : o.kind ∈ b.options.map (·.kind) then
    .error ⟨.invalidArgument, .text ("duplicate option " ++ OptionKind.label o.kind)⟩
  else
    .ok ⟨b.options ++ [o], by
      rw [List.map_append, List.nodup_append]
      exact ⟨b.distinct, by simp, by
        intro x hx y hy e
        simp only [List.map_cons, List.map_nil, List.mem_singleton] at hy
        exact h (hy ▸ e ▸ hx)⟩⟩

/-- The bag of a list of options, or the failure that names the first kind that comes again. -/
def ofList [OptionKind κ] (os : List (RequestOption κ ν)) : Except Failure (OptionBag κ ν) :=
  os.foldlM add {}

/-- The same kinds, in whatever order, with values that are alike by the equality of their type. A bag
with a value that is not alike to itself is not the same as itself. -/
def same [Comparable ν] (a b : OptionBag κ ν) : Bool :=
  a.size == b.size && a.options.all fun o =>
    (b.find? o.kind).any fun p => Comparable.alike o.value p.value

/-- The value of a kind as a whole number. -/
def getInt? (b : OptionBag κ OptionValue) (k : κ) : Option Int64 := (b.get? k).bind (·.asInt?)

/-- The value of a kind as a string. -/
def getStr? (b : OptionBag κ OptionValue) (k : κ) : Option String := (b.get? k).bind (·.asStr?)

/-- The value of a kind as a boolean. -/
def getBool? (b : OptionBag κ OptionValue) (k : κ) : Option Bool := (b.get? k).bind (·.asBool?)

omit [DecidableEq κ]

/-- Parameters in the order of their names. -/
def sortByName {α : Type} (ps : List (String × α)) : List (String × α) :=
  ps.mergeSort fun a b => decide (a.1 ≤ b.1)

/-- The parameters of options, in their order; the first value without a form fails. -/
def formatAll [OptionKind κ] [RequestParameter ν] :
    List (RequestOption κ ν) → Except Failure (List (String × String))
  | [] => .ok []
  | ⟨_, none⟩ :: os => formatAll os
  | ⟨k, some v⟩ :: os =>
    match RequestParameter.format v with
    | .ok text => ((OptionKind.name k, text) :: ·) <$> formatAll os
    | .error fault => .error ⟨.serialization, .format fault⟩

/-- The parameters of the options that have a value, sorted by name. -/
def format [OptionKind κ] [RequestParameter ν] (b : OptionBag κ ν) :
    Except Failure (List (String × String)) :=
  sortByName <$> formatAll b.options

end OptionBag

end CloudData
