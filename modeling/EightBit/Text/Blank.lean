/-!
# Blank characters

The characters with the Unicode property White_Space, and trimming a text of them at both ends.
-/

namespace EightBit.Blank

/-- The ranges, ends included, of the characters with the property White_Space. -/
def ranges : List (Nat × Nat) :=
  [(0x09, 0x0d), (0x20, 0x20), (0x85, 0x85), (0xa0, 0xa0), (0x1680, 0x1680), (0x2000, 0x200a),
   (0x2028, 0x2029), (0x202f, 0x202f), (0x205f, 0x205f), (0x3000, 0x3000)]

/-- Whether a character is blank. -/
def isBlank (c : Char) : Bool :=
  ranges.any fun (low, high) => low ≤ c.toNat && c.toNat ≤ high

/-- A text without the blank characters at its start. -/
def trimStart (text : List Char) : List Char :=
  text.dropWhile isBlank

/-- A text without the blank characters at its end. -/
def trimEnd (text : List Char) : List Char :=
  (text.reverse.dropWhile isBlank).reverse

/-- A text without the blank characters at either end. -/
def trim (text : List Char) : List Char :=
  trimEnd (trimStart text)

end EightBit.Blank
