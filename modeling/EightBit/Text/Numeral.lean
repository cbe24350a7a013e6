/-!
# Numerals

Numbers as text, both ways: writing in a radix with a least number of digits, and reading an
unsigned number with an upper bound.

Reading goes from left to right and stops at the first trouble, so of a bad digit and a number
that is too large the one that comes first in the text is reported.
-/

namespace EightBit.Numeral

/-! ## Writing -/

/-- The digits of `n` in `radix`, filled with zeros on the left up to `width` of them. -/
def padded (radix width n : Nat) : List Char :=
  (Nat.toDigits radix n).leftpad width '0'

/-- Hexadecimal with the mark `0x` and at least two lower-case digits, as messages show
addresses. -/
def hex (n : Nat) : String :=
  "0x" ++ String.ofList (padded 16 2 n)

/-- Hexadecimal without a mark, with at least two upper-case digits, as dumps show bytes. -/
def upperHex (n : Nat) : List Char :=
  (padded 16 2 n).map Char.toUpper

/-- Binary with the mark `0b` and at least eight digits. -/
def binary (n : Nat) : String :=
  "0b" ++ String.ofList (padded 2 8 n)

/-! ## Reading -/

/-- Why a text is not a number of the wanted range. -/
inductive ReadError where
  | empty
  | invalidDigit
  | tooLarge
deriving DecidableEq, Repr

/-- The words for a number that cannot be read. -/
def ReadError.message : ReadError → String
  | .empty => "cannot parse integer from empty string"
  | .invalidDigit => "invalid digit found in string"
  | .tooLarge => "number too large to fit in target type"

/-- The value of an ASCII digit in `radix`, letters of either case standing for ten and more. -/
def digit? (radix : Nat) (c : Char) : Option Nat :=
  let value? :=
    if '0' ≤ c ∧ c ≤ '9' then some (c.toNat - '0'.toNat)
    else if 'a' ≤ c ∧ c ≤ 'z' then some (c.toNat - 'a'.toNat + 10)
    else if 'A' ≤ c ∧ c ≤ 'Z' then some (c.toNat - 'A'.toNat + 10)
    else none
  value?.filter (· < radix)

/-- Reads digits on top of the value `acc` of those before them; no value on the way may
exceed `max`. -/
def readDigits (radix max acc : Nat) : List Char → Except ReadError Nat
  | [] => .ok acc
  | c :: rest =>
    match digit? radix c with
    | none => .error .invalidDigit
    | some d =>
      if max < acc * radix + d then .error .tooLarge
      else readDigits radix max (acc * radix + d) rest

/-- Reads an unsigned number of at most `max`. One leading `+` is allowed before the digits,
of which there must be at least one. -/
def read (radix max : Nat) : List Char → Except ReadError Nat
  | [] => .error .empty
  | ['+'] => .error .invalidDigit
  | '+' :: digits => readDigits radix max 0 digits
  | digits => readDigits radix max 0 digits

/-- The largest number of 64 bits, the bound of the plain numbers that the program reads. -/
def maxWord : Nat := UInt64.size - 1

/-- Reads a number whose radix is marked in front of it: 16 after `0x`, 2 after `0b`, else 10. -/
def readMarked (max : Nat) : List Char → Except ReadError Nat
  | '0' :: 'x' :: digits => read 16 max digits
  | '0' :: 'b' :: digits => read 2 max digits
  | digits => read 10 max digits

end EightBit.Numeral
