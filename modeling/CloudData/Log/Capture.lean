/-
A capture of log events. It records while at least one guard is held, and every
event once, however many are held.
-/
import CloudData.Log.Event

namespace CloudData

/-- Whether `part` stands somewhere in `whole`. -/
def occursIn (part : List Char) : List Char → Bool
  | [] => part.isEmpty
  | c :: cs => part.isPrefixOf (c :: cs) || occursIn part cs

/-- The guards that are held, and the events recorded so far. -/
structure Capture where
  guards : Nat := 0
  recorded : List Event := []

namespace Capture

/-- Takes a guard. -/
def install (c : Capture) : Capture := { c with guards := c.guards + 1 }

/-- Gives back the newest guard, if there is one. -/
def drop (c : Capture) : Capture := { c with guards := c.guards - 1 }

/-- Records an event if a guard is held. -/
def emit (c : Capture) (e : Event) : Capture :=
  if c.guards = 0 then c else { c with recorded := c.recorded ++ [e] }

/-- The texts of the events so far. -/
def events (c : Capture) : List String := c.recorded.map Event.text

/-- Whether the text of some event contains `part`. -/
def contains (c : Capture) (part : String) : Bool :=
  c.events.any fun e => occursIn part.toList e.toList

end Capture

end CloudData
