import DicePool.Text.Class

/-!
# Quoted text

Text is shown between double quotes. The quote, the backslash and the common
controls have two-character escapes; any other character that does not show by
itself is written by its code point in hexadecimal.
-/

namespace DicePool.Quoted

/-- The code point of `c` in lower-case hexadecimal, between braces. -/
def codePoint (c : Char) : List Char :=
  ['\\', 'u', '\x7b'] ++ Nat.toDigits 16 c.toNat ++ ['\x7d']

/-- One character inside the quotes. -/
def escape (c : Char) : List Char :=
  if c = '\x00' then ['\\', '0']
  else if c = '\t' then ['\\', 't']
  else if c = '\r' then ['\\', 'r']
  else if c = '\n' then ['\\', 'n']
  else if c = '"' then ['\\', '"']
  else if c = '\\' then ['\\', '\\']
  else if isHidden c then codePoint c
  else [c]

/-- The whole text, escaped and quoted. -/
def quote (text : List Char) : List Char :=
  '"' :: text.flatMap escape ++ ['"']

end DicePool.Quoted
