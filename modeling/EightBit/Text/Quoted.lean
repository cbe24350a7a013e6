import EightBit.Text.Printable

/-!
# Quoted text

A text in double quotes, as messages show text that somebody wrote: the quote and the backslash
get a backslash, a few control characters have names, and any other character that is not
printable is written as its code point.
-/

namespace EightBit.Quoted

/-- How one character is written between the quotes. -/
def escape (c : Char) : List Char :=
  if c = '"' then ['\\', '"']
  else if c = '\\' then ['\\', '\\']
  else if c = '\t' then ['\\', 't']
  else if c = '\r' then ['\\', 'r']
  else if c = '\n' then ['\\', 'n']
  else if c = '\x00' then ['\\', '0']
  else if Printable.isPrintable c then [c]
  else ['\\', 'u', '\x7b'] ++ Nat.toDigits 16 c.toNat ++ ['\x7d']

/-- A text in quotes. -/
def quote (text : List Char) : List Char :=
  '"' :: text.flatMap escape ++ ['"']

end EightBit.Quoted
