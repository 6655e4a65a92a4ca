/-
The shortest decimal form of a double: the fewest digits that read back to the
same bits, and of two such forms the nearer. `Decimal.plain` and
`Decimal.compact` are the two texts of it that are in use: request parameters
never have an exponent, JSON numbers have one outside a middle range.
-/
import CloudData.Number.Binary64

namespace CloudData

/-- What an exact tie between two neighbours on a decimal grid becomes. -/
inductive Tie
  | up
  | even
deriving DecidableEq, Repr

/-- The number `digits * 10 ^ exponent`. -/
structure Decimal where
  digits : Nat
  exponent : Int
deriving DecidableEq, Repr

namespace Decimal

/-- Drops the zeros at the end of the digits, at most `fuel` of them. -/
def dropZeros : Nat → Decimal → Decimal
  | 0, d => d
  | fuel + 1, d =>
    if d.digits ≠ 0 ∧ d.digits % 10 = 0 then dropZeros fuel ⟨d.digits / 10, d.exponent + 1⟩ else d

/-- The digits as text. -/
def digitText (d : Decimal) : List Char := Nat.toDigits 10 d.digits

/-- Where the decimal point stands, counted from the first digit. -/
def point (d : Decimal) : Int := d.exponent + d.digitText.length

/-- Digits with a decimal point and no exponent; a whole number has no point. -/
def plain (d : Decimal) : List Char :=
  let ds := d.digitText
  if 0 ≤ d.exponent then
    if d.digits = 0 then ds else ds ++ List.replicate d.exponent.toNat '0'
  else if 0 < d.point then ds.take d.point.toNat ++ '.' :: ds.drop d.point.toNat
  else '0' :: '.' :: List.replicate (-d.point).toNat '0' ++ ds

/-- An exponent with its sign, in as many digits as it needs. -/
def exponentText (e : Int) : List Char :=
  (if e < 0 then '-' else '+') :: Nat.toDigits 10 e.natAbs

/-- One digit, the point, the others, and the exponent. -/
def scientific (d : Decimal) : List Char :=
  let e := exponentText (d.point - 1)
  match d.digitText with
  | first :: second :: rest => first :: '.' :: second :: rest ++ 'e' :: e
  | ds => ds ++ 'e' :: e

/-- Positional while the point stands after at most sixteen digits or before at most four zeros
of a fraction, with `.0` after a whole number; scientific otherwise. -/
def compact (d : Decimal) : List Char :=
  if d.digits = 0 then ['0', '.', '0']
  else if -5 < d.point ∧ d.point ≤ 16 then
    if 0 ≤ d.exponent then d.plain ++ ['.', '0'] else d.plain
  else d.scientific

end Decimal

namespace Binary64

/-- The decimal point of a positive number `units / 2 ^ 1074`: the `k` with
`10 ^ (k - 1) ≤ units / 2 ^ 1074 < 10 ^ k`. -/
def decimalPoint (units : Nat) : Int :=
  if 1 <<< 1074 ≤ units then (Nat.toDigits 10 (units >>> 1074)).length
  else 1 - ((Nat.toDigits 10 (((1 <<< 1074) - 1) / units)).length : Int)

/-- The two neighbours of `units / 2 ^ 1074` on the grid of multiples of `10 ^ e`, the nearer first. -/
def neighbours (tie : Tie) (units : Nat) (e : Int) : List Decimal :=
  let num := units * Nat.pow 10 (-e).toNat
  let den := Nat.pow 10 e.toNat <<< 1074
  let low := num / den
  let rest := num % den
  let lowFirst := if 2 * rest = den then tie = .even ∧ low % 2 = 0 else 2 * rest < den
  if lowFirst then [⟨low, e⟩, ⟨low + 1, e⟩] else [⟨low + 1, e⟩, ⟨low, e⟩]

/-- The shortest decimal that reads back to the magnitude of a finite `d`. Seventeen digits always
suffice. -/
def shortest (tie : Tie) (d : Binary64) : Decimal :=
  if d.isZero then ⟨0, 0⟩
  else
    let point := decimalPoint d.units
    let readsBack (x : Decimal) : Bool := (ofDecimal d.negative x.digits x.exponent) == d
    let found := (List.range 17).findSome? fun n =>
      (neighbours tie d.units (point - (n + 1 : Nat))).find? readsBack
    (found.getD ⟨0, 0⟩).dropZeros 20

/-- The sign and the given text of a finite number, or one of the words for the others. -/
def textWith (layout : Decimal → List Char) (tie : Tie) (d : Binary64) : String :=
  if d.isNaN then "NaN"
  else
    let body := if d.isFinite then layout (d.shortest tie) else ['i', 'n', 'f']
    String.ofList (if d.negative then '-' :: body else body)

/-- The text of a number in a request parameter: no exponent, and no point in a whole number. -/
def plainText (d : Binary64) : String := d.textWith Decimal.plain .up

/-- The text of a number in JSON. -/
def jsonText (d : Binary64) : String := d.textWith Decimal.compact .even

end Binary64

end CloudData
