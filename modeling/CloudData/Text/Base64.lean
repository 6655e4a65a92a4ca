/-
Bytes as text in base 64. Two alphabets, with or without padding on the way out;
on the way in, the unused bits of the last symbol must be zero, and every text
that is refused is refused with the first fault in it.

The codec is one of many that could be used, and what cursors and parameters say of
their texts is proved for all of them. What is assumed of the one at hand, beyond
what texts in base 64 are, is how it treats what is not one: optional padding may be
left out but must be right where it is there, and of several faults the first is
reported, unless the last byte makes a group by itself and is no symbol.
-/

namespace CloudData

/-- A string of bytes. -/
abbrev Bytes := List UInt8

namespace Base64

/-- The two alphabets. They differ in the last two symbols only. -/
inductive Alphabet
  | standard
  | urlSafe
deriving DecidableEq, Repr

/-- Whether the signs that fill up the last group of four must be there. -/
inductive Padding
  | required
  | optional
deriving DecidableEq, Repr

/-- Why a text is not an encoding. Offsets count bytes of the text. -/
inductive Fault
  | symbol (byte : UInt8) (offset : Nat)
  | lastSymbol (byte : UInt8) (offset : Nat)
  | length (n : Nat)
  | padding
deriving DecidableEq, Repr

/-- The fault in words. -/
def Fault.message : Fault → String
  | .symbol b i => s!"Invalid symbol {b}, offset {i}."
  | .lastSymbol b i => s!"Invalid last symbol {b}, offset {i}."
  | .length n => s!"Invalid input length: {n}"
  | .padding => "Invalid padding"

/-- The sign that fills up the last group. -/
def padByte : UInt8 := 61

/-- The symbols of an alphabet in the order of their values. -/
def Alphabet.symbols (a : Alphabet) : List Char :=
  "ABCDEFGHIJKLMNOPQRSTUVWXYZabcdefghijklmnopqrstuvwxyz0123456789".toList ++
    match a with
    | .standard => ['+', '/']
    | .urlSafe => ['-', '_']

/-- The symbol of a value below 64. -/
def Alphabet.symbol (a : Alphabet) (value : Nat) : Char := a.symbols.getD value '='

/-- The value of a byte of the alphabet. -/
def Alphabet.value? (a : Alphabet) (b : UInt8) : Option Nat :=
  if 65 ≤ b ∧ b ≤ 90 then some (b.toNat - 65)
  else if 97 ≤ b ∧ b ≤ 122 then some (b.toNat - 71)
  else if 48 ≤ b ∧ b ≤ 57 then some (b.toNat + 4)
  else match a with
    | .standard => if b = 43 then some 62 else if b = 47 then some 63 else none
    | .urlSafe => if b = 45 then some 62 else if b = 95 then some 63 else none

/-! ## Writing -/

/-- Three bytes become four symbols; one or two left over become two or three. -/
def encodeUnpadded (a : Alphabet) : Bytes → List Char
  | [] => []
  | [x] => [a.symbol (x.toNat / 4), a.symbol (x.toNat % 4 * 16)]
  | [x, y] =>
    [a.symbol (x.toNat / 4), a.symbol (x.toNat % 4 * 16 + y.toNat / 16), a.symbol (y.toNat % 16 * 4)]
  | x :: y :: z :: rest =>
    a.symbol (x.toNat / 4) :: a.symbol (x.toNat % 4 * 16 + y.toNat / 16) ::
      a.symbol (y.toNat % 16 * 4 + z.toNat / 64) :: a.symbol (z.toNat % 64) :: encodeUnpadded a rest

/-- How many signs fill up the last group of an encoding of `n` bytes. -/
def padCount (n : Nat) : Nat := (3 - n % 3) % 3

/-- The encoding without padding. -/
def unpadded (a : Alphabet) (bs : Bytes) : String := String.ofList (encodeUnpadded a bs)

/-- The encoding, filled up to whole groups of four. -/
def padded (a : Alphabet) (bs : Bytes) : String :=
  String.ofList (encodeUnpadded a bs ++ List.replicate (padCount bs.length) '=')

/-! ## Reading -/

/-- The value of the byte at `offset`, or the fault that it is none of the alphabet. -/
def readSymbol (a : Alphabet) (offset : Nat) (b : UInt8) : Except Fault Nat :=
  match a.value? b with
  | some v => .ok v
  | none => .error (.symbol b offset)

/-- The values before the padding of the last group, and the length of the padding. The group
starts at `start`; `seen` holds the values so far. Padding may only start after two symbols, and
what follows it must be padding. -/
def scanLast (a : Alphabet) (start : Nat) : List Nat → Bytes → Except Fault (List Nat × Nat)
  | seen, [] => .ok (seen, 0)
  | seen, b :: rest =>
    if b = padByte then
      if seen.length < 2 ∨ rest.any (· ≠ padByte) then .error (.symbol padByte (start + seen.length))
      else .ok (seen, rest.length + 1)
    else do
      let v ← readSymbol a (start + seen.length) b
      scanLast a start (seen ++ [v]) rest

/-- The bytes of the last group, of at most four bytes of text. -/
def decodeLast (a : Alphabet) (p : Padding) (start : Nat) (group : Bytes) : Except Fault Bytes := do
  let (values, pads) ← scanLast a start [] group
  let at? (i : Nat) : UInt8 := group.getD i 0
  if !group.isEmpty && values.length < 2 then throw (.length (start + values.length))
  if p = .required ∧ (values.length + pads) % 4 ≠ 0 then throw .padding
  match values with
  | [v, w] =>
    if w % 16 ≠ 0 then throw (.lastSymbol (at? 1) (start + 1))
    return [UInt8.ofNat (v * 4 + w / 16)]
  | [v, w, x] =>
    if x % 4 ≠ 0 then throw (.lastSymbol (at? 2) (start + 2))
    return [UInt8.ofNat (v * 4 + w / 16), UInt8.ofNat (w % 16 * 16 + x / 4)]
  | [v, w, x, y] =>
    return [UInt8.ofNat (v * 4 + w / 16), UInt8.ofNat (w % 16 * 16 + x / 4), UInt8.ofNat (x % 4 * 64 + y)]
  | _ => return []

/-- The bytes of a text whose first byte stands at `start`: groups of four while more follows, and
then the last group. -/
def decodeFrom (a : Alphabet) (p : Padding) : Nat → Bytes → Except Fault Bytes
  | start, b0 :: b1 :: b2 :: b3 :: b4 :: rest => do
    let v ← readSymbol a start b0
    let w ← readSymbol a (start + 1) b1
    let x ← readSymbol a (start + 2) b2
    let y ← readSymbol a (start + 3) b3
    let bytes ← decodeFrom a p (start + 4) (b4 :: rest)
    return UInt8.ofNat (v * 4 + w / 16) :: UInt8.ofNat (w % 16 * 16 + x / 4) ::
      UInt8.ofNat (x % 4 * 64 + y) :: bytes
  | start, group => decodeLast a p start group

/-- The last byte when it makes a group of one by itself and is no symbol: such a byte (often the
end of a line) is reported before everything else. -/
def strayLast? (a : Alphabet) (text : Bytes) : Option Fault :=
  match text.getLast? with
  | some b =>
    if text.length % 4 = 1 ∧ b ≠ padByte ∧ (a.value? b).isNone then
      some (.symbol b (text.length - 1))
    else none
  | none => none

/-- The bytes that a text encodes. -/
def decode (a : Alphabet) (p : Padding) (text : Bytes) : Except Fault Bytes :=
  match strayLast? a text with
  | some fault => .error fault
  | none => decodeFrom a p 0 text

/-- The bytes that a string encodes. -/
def decodeText (a : Alphabet) (p : Padding) (s : String) : Except Fault Bytes :=
  decode a p s.toUTF8.data.toList

end Base64

end CloudData
