/-
Double-precision numbers as bit patterns. Equality is equality of bits; `alike`
is numerical equality; `ofRatio` rounds an exact quotient to the nearest double,
a tie to the even significand. Every finite double is a whole number of units of
`2 ^ -1074`, so all the arithmetic is on natural numbers.
-/

namespace CloudData

/-- The whole number nearest to `num / den`, a half to the even neighbour. -/
def roundHalfEven (num den : Nat) : Nat :=
  let q := num / den
  let r := num % den
  if 2 * r < den then q else if den < 2 * r then q + 1 else q + q % 2

/-- A double-precision number, held as its bits. -/
structure Binary64 where
  bits : UInt64
deriving DecidableEq, Inhabited, Repr

namespace Binary64

/-- The sign bit. -/
def negative (d : Binary64) : Bool := decide (1 <<< 63 ≤ d.bits.toNat)

/-- The bits below the sign. -/
def magnitude (d : Binary64) : Nat := d.bits.toNat % (1 <<< 63)

/-- The biased exponent, eleven bits wide. -/
def exponent (d : Binary64) : Nat := d.magnitude >>> 52

/-- The stored bits of the significand, 52 of them. -/
def fraction (d : Binary64) : Nat := d.magnitude % (1 <<< 52)

/-- Neither infinite nor a NaN. -/
def isFinite (d : Binary64) : Bool := decide (d.exponent < 2047)

/-- Not a number. -/
def isNaN (d : Binary64) : Bool := decide (2047 <<< 52 < d.magnitude)

/-- Either zero. -/
def isZero (d : Binary64) : Bool := d.magnitude == 0

/-- Numerical equality: a NaN is alike to nothing, itself included, and the two zeros are alike. -/
def alike (a b : Binary64) : Bool :=
  !a.isNaN && !b.isNaN && (a == b || (a.isZero && b.isZero))

/-- How many units of `2 ^ -1074` the magnitude of a finite number is. -/
def units (d : Binary64) : Nat :=
  if d.exponent = 0 then d.fraction else ((1 <<< 52) + d.fraction) <<< (d.exponent - 1)

/-- The number with the given sign and bits below it. -/
def ofMagnitude (negative : Bool) (magnitude : Nat) : Binary64 :=
  ⟨UInt64.ofNat ((if negative then 1 <<< 63 else 0) + magnitude)⟩

/-- Infinity of either sign. -/
def infinity (negative : Bool) : Binary64 := ofMagnitude negative (2047 <<< 52)

/-- Zero of either sign. -/
def zero (negative : Bool) : Binary64 := ofMagnitude negative 0

/-- The bits below the sign of the double nearest to `num / den`: the quotient is taken in units of
`2 ^ -1074`, cut to 53 significant bits, and the count of dropped bits is the exponent. -/
def nearestMagnitude (num den : Nat) : Nat :=
  let scaled := num <<< 1074
  let dropped := (scaled / den).log2 - 52
  min ((dropped <<< 52) + roundHalfEven scaled (den <<< dropped)) (2047 <<< 52)

/-- The double nearest to `num / den`, infinite where that is out of range. -/
def ofRatio (negative : Bool) (num den : Nat) : Binary64 :=
  ofMagnitude negative (nearestMagnitude num den)

/-- The double nearest to a whole number. -/
def ofInt (n : Int) : Binary64 := ofRatio (decide (n < 0)) n.natAbs 1

/-- The double nearest to `digits * 10 ^ exponent`. Beyond four hundred places on either side the
answer is infinite or zero, and the power of ten is not computed. -/
def ofDecimal (negative : Bool) (digits : Nat) (exponent : Int) : Binary64 :=
  if digits = 0 then zero negative
  else if exponent + (Nat.toDigits 10 digits).length < -400 then zero negative
  else if 400 < exponent then infinity negative
  else match exponent with
    | .ofNat e => ofRatio negative (digits * Nat.pow 10 e) 1
    | .negSucc e => ofRatio negative digits (Nat.pow 10 (e + 1))

end Binary64

end CloudData
