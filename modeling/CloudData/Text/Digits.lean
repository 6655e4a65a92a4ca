/-
Whole numbers in decimal text. Reading takes an optional sign and then ASCII
digits, leading zeros included, and nothing else; writing gives the shortest
such text.
-/

namespace CloudData

namespace Digits

/-- The value of one or more ASCII digits. -/
def readNat? (cs : List Char) : Option Nat :=
  if cs.isEmpty ∨ cs.any (fun c => !c.isDigit) then none else some (Nat.ofDigitChars 10 cs 0)

/-- The value of an optional sign and one or more ASCII digits. -/
def readInt? : List Char → Option Int
  | '-' :: cs => (readNat? cs).map fun n => -(n : Int)
  | '+' :: cs => (readNat? cs).map Int.ofNat
  | cs => (readNat? cs).map Int.ofNat

/-- The decimal text of a whole number. -/
def write : Int → List Char
  | .ofNat n => Nat.toDigits 10 n
  | .negSucc n => '-' :: Nat.toDigits 10 (n + 1)

end Digits

/-- The 64-bit number that a decimal text stands for. -/
def int64OfText? (s : String) : Option Int64 :=
  match Digits.readInt? s.toList with
  | some n =>
    if Int64.minValue.toInt ≤ n ∧ n ≤ Int64.maxValue.toInt then some (Int64.ofInt n) else none
  | none => none

/-- A whole number in decimal. -/
def intText (n : Int) : String := String.ofList (Digits.write n)

end CloudData
