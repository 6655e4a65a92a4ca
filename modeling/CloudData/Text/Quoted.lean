/-
Text in double quotes, as log events show it: quotes, backslashes and the usual
controls have short escapes, other characters that cannot be shown are written
by their code point.
-/
import CloudData.Text.Unprintable

namespace CloudData

namespace Quoted

/-- The code point in lower-case hexadecimal, in braces. -/
def escapePoint (c : Char) : List Char :=
  '\\' :: 'u' :: '\x7b' :: Nat.toDigits 16 c.toNat ++ ['\x7d']

/-- How a character stands inside the quotes. -/
def escapeChar (c : Char) : List Char :=
  if c = '"' then ['\\', '"']
  else if c = '\\' then ['\\', '\\']
  else if c = '\n' then ['\\', 'n']
  else if c = '\r' then ['\\', 'r']
  else if c = '\t' then ['\\', 't']
  else if c = '\x00' then ['\\', '0']
  else if c.toNat < 0x20 ∨ isUnprintable c then escapePoint c
  else [c]

end Quoted

/-- The text in double quotes, with escapes. -/
def quoted (s : String) : String :=
  String.ofList ('"' :: s.toList.flatMap Quoted.escapeChar ++ ['"'])

end CloudData
