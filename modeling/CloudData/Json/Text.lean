/-
JSON text: reading and writing. The reader takes the members of an object in
any order and gives them ascending by name; of two members with one name the
later one stays. It refuses numbers out of the range of doubles, lone
surrogates, and anything after the value but blanks.
-/
import CloudData.Json.Basic
import CloudData.NameMap
import CloudData.Number.Shortest
import CloudData.Text.Digits

namespace CloudData

namespace Json

namespace Text

/-- The four characters that may stand between tokens. -/
def isBlank (c : Char) : Bool := c = ' ' || c = '\t' || c = '\n' || c = '\r'

/-- What follows the blanks. -/
def skip (cs : List Char) : List Char := cs.dropWhile isBlank

/-- The text after a fixed word. -/
def expect? : List Char → List Char → Option (List Char)
  | [], rest => some rest
  | w :: ws, c :: cs => if w = c then expect? ws cs else none
  | _ :: _, [] => none

/-! ## Strings -/

/-- The value of a hexadecimal digit. -/
def hexValue? (c : Char) : Option Nat :=
  if '0' ≤ c ∧ c ≤ '9' then some (c.toNat - 48)
  else if 'a' ≤ c ∧ c ≤ 'f' then some (c.toNat - 87)
  else if 'A' ≤ c ∧ c ≤ 'F' then some (c.toNat - 55)
  else none

/-- The code unit of four hexadecimal digits. -/
def unit? (a b c d : Char) : Option Nat := do
  return ((← hexValue? a) * 16 + (← hexValue? b)) * 256 + (← hexValue? c) * 16 + (← hexValue? d)

/-- The character of a short escape. -/
def shortEscape? (c : Char) : Option Char :=
  if c = '"' ∨ c = '\\' ∨ c = '/' then some c
  else if c = 'b' then some '\x08'
  else if c = 'f' then some '\x0c'
  else if c = 'n' then some '\n'
  else if c = 'r' then some '\r'
  else if c = 't' then some '\t'
  else none

/-- Whether a code unit is the first half of a pair. -/
def isHigh (u : Nat) : Bool := decide (0xd800 ≤ u ∧ u < 0xdc00)

/-- Whether a code unit is the second half of a pair. -/
def isLow (u : Nat) : Bool := decide (0xdc00 ≤ u ∧ u < 0xe000)

/-- The characters up to the closing quote, and the text after it. -/
def stringBody? : List Char → Option (List Char × List Char)
  | '"' :: rest => some ([], rest)
  | '\\' :: 'u' :: a :: b :: c :: d :: rest => do
    let u ← unit? a b c d
    if isHigh u then
      match rest with
      | '\\' :: 'u' :: a :: b :: c :: d :: rest =>
        let l ← unit? a b c d
        if isLow l then
          let (cs, after) ← stringBody? rest
          return (Char.ofNat (0x10000 + (u - 0xd800) * 0x400 + (l - 0xdc00)) :: cs, after)
        else none
      | _ => none
    else if isLow u then none
    else
      let (cs, after) ← stringBody? rest
      return (Char.ofNat u :: cs, after)
  | '\\' :: e :: rest => do
    let c ← shortEscape? e
    let (cs, after) ← stringBody? rest
    return (c :: cs, after)
  | c :: rest =>
    if c.toNat < 0x20 ∨ c = '\\' then none
    else do
      let (cs, after) ← stringBody? rest
      return (c :: cs, after)
  | [] => none

/-! ## Numbers -/

/-- The digits at the front, and the rest. -/
def digits (cs : List Char) : List Char × List Char := (cs.takeWhile Char.isDigit, cs.dropWhile Char.isDigit)

/-- A fraction, if the text goes on with one: its digits. -/
def fraction? : List Char → Option (Option (List Char) × List Char)
  | '.' :: cs =>
    match digits cs with
    | ([], _) => none
    | (ds, rest) => some (some ds, rest)
  | cs => some (none, cs)

/-- The digits of an exponent with its sign. -/
def signedDigits? (negative : Bool) (cs : List Char) : Option (Option Int × List Char) :=
  match digits cs with
  | ([], _) => none
  | (ds, rest) =>
    let n : Int := Nat.ofDigitChars 10 ds 0
    some (some (if negative then -n else n), rest)

/-- An exponent, if the text goes on with one. -/
def exponent? : List Char → Option (Option Int × List Char)
  | c :: cs =>
    if c = 'e' ∨ c = 'E' then
      match cs with
      | '-' :: cs => signedDigits? true cs
      | '+' :: cs => signedDigits? false cs
      | cs => signedDigits? false cs
    else some (none, c :: cs)
  | [] => some (none, [])

/-- The whole numbers that are kept exact: those of 64 bits, with or without a sign. -/
def isExact (n : Int) : Bool := decide (Int64.minValue.toInt ≤ n ∧ n < UInt64.size)

/-- A number that has a fraction or an exponent, or is too large to be kept exact, or is a zero with
a sign, is a double. -/
def number? (negative : Bool) (cs : List Char) : Option (Json × List Char) :=
  match digits cs with
  | ([], _) => none
  | (whole, rest) => do
    if 1 < whole.length ∧ whole.head? = some '0' then none
    let (frac, rest) ← fraction? rest
    let (exp, rest) ← exponent? rest
    let magnitude := Nat.ofDigitChars 10 whole 0
    let n : Int := if negative then -(magnitude : Int) else magnitude
    if frac.isNone ∧ exp.isNone ∧ isExact n ∧ !(negative && magnitude == 0) then
      return (.int n, rest)
    else
      let fracDigits := frac.getD []
      let d := Binary64.ofDecimal negative (Nat.ofDigitChars 10 (whole ++ fracDigits) 0)
        (exp.getD 0 - fracDigits.length)
      if d.isFinite then return (.float d, rest) else none

/-! ## Values -/

mutual

/-- A value and the text after it. Every call takes one step off the bound, which the length of the
text exceeds. -/
def value? : Nat → List Char → Option (Json × List Char)
  | 0, _ => none
  | fuel + 1, cs =>
    match skip cs with
    | '\x7b' :: rest =>
      match skip rest with
      | '\x7d' :: after => some (.obj [], after)
      | _ => do
        let (ms, after) ← members? fuel rest
        return (.obj (NameMap.ofList ms).entries, after)
    | '[' :: rest =>
      match skip rest with
      | ']' :: after => some (.arr [], after)
      | _ => do
        let (xs, after) ← items? fuel rest
        return (.arr xs, after)
    | '"' :: rest => do
      let (cs, after) ← stringBody? rest
      return (.str (String.ofList cs), after)
    | 't' :: rest => (expect? ['r', 'u', 'e'] rest).map (.bool true, ·)
    | 'f' :: rest => (expect? ['a', 'l', 's', 'e'] rest).map (.bool false, ·)
    | 'n' :: rest => (expect? ['u', 'l', 'l'] rest).map (.null, ·)
    | '-' :: rest => number? true rest
    | rest => number? false rest

/-- The items of an array up to the closing bracket. -/
def items? : Nat → List Char → Option (List Json × List Char)
  | 0, _ => none
  | fuel + 1, cs => do
    let (x, rest) ← value? fuel cs
    match skip rest with
    | ',' :: rest => do
      let (xs, after) ← items? fuel rest
      return (x :: xs, after)
    | ']' :: after => return ([x], after)
    | _ => none

/-- The members of an object up to the closing brace. -/
def members? : Nat → List Char → Option (List (String × Json) × List Char)
  | 0, _ => none
  | fuel + 1, cs =>
    match skip cs with
    | '"' :: rest => do
      let (name, rest) ← stringBody? rest
      match skip rest with
      | ':' :: rest => do
        let (x, rest) ← value? fuel rest
        match skip rest with
        | ',' :: rest => do
          let (ms, after) ← members? fuel rest
          return ((String.ofList name, x) :: ms, after)
        | '\x7d' :: after => return ([(String.ofList name, x)], after)
        | _ => none
      | _ => none
    | _ => none

end

/-! ## Writing -/

/-- How a character stands in a string. -/
def escapeChar (c : Char) : List Char :=
  if c = '"' ∨ c = '\\' then ['\\', c]
  else if c.toNat < 0x20 then
    '\\' :: 'u' :: '0' :: '0' :: Nat.digitChar (c.toNat / 16) :: [Nat.digitChar (c.toNat % 16)]
  else [c]

/-- A string in quotes. -/
def writeString (s : String) : List Char := '"' :: s.toList.flatMap escapeChar ++ ['"']

mutual

/-- The text of a value, without blanks. -/
def write : Json → List Char
  | .null => ['n', 'u', 'l', 'l']
  | .bool true => ['t', 'r', 'u', 'e']
  | .bool false => ['f', 'a', 'l', 's', 'e']
  | .int n => Digits.write n
  | .float d => d.jsonText.toList
  | .str s => writeString s
  | .arr [] => ['[', ']']
  | .arr (x :: xs) => '[' :: write x ++ writeItems xs
  | .obj [] => ['\x7b', '\x7d']
  | .obj ((n, x) :: ms) => '\x7b' :: writeString n ++ ':' :: write x ++ writeMembers ms

/-- The items after the first, and the closing bracket. -/
def writeItems : List Json → List Char
  | [] => [']']
  | x :: xs => ',' :: write x ++ writeItems xs

/-- The members after the first, and the closing brace. -/
def writeMembers : List (String × Json) → List Char
  | [] => ['\x7d']
  | (n, x) :: ms => ',' :: writeString n ++ ':' :: write x ++ writeMembers ms

end

end Text

/-- The value of a JSON text. -/
def ofText? (s : String) : Option Json :=
  let cs := s.toList
  match Text.value? (cs.length + 1) cs with
  | some (j, rest) => if (Text.skip rest).isEmpty then some j else none
  | none => none

/-- The text of a value. -/
def toText (j : Json) : String := String.ofList (Text.write j)

end Json

end CloudData
