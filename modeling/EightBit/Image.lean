import EightBit.Text.Blank
import EightBit.Text.Lines
import EightBit.Text.Quoted

/-!
# Program images

A program image is a text with one byte a line, written in base 2. A `#` begins a comment that
goes on to the end of the line. What is left of a line without its comment and the blanks at
either end is its token; a line with an empty token counts for nothing but the numbering of lines.

The first token that is not a byte is reported with its line.
-/

namespace EightBit

/-- A line whose token is not a byte in base 2. Lines are numbered from 1. -/
structure InvalidLine where
  line : Nat
  token : String
deriving DecidableEq, Repr

/-- The trouble with a line in words. -/
def InvalidLine.message (e : InvalidLine) : String :=
  s!"line {e.line}: " ++ String.ofList (Quoted.quote e.token.toList) ++
    " is not an 8-bit binary literal"

namespace Image

/-- What a line says once its comment and outer blanks are gone. -/
def token (line : List Char) : List Char :=
  Blank.trim (line.takeWhile (· ≠ '#'))

/-- The number that binary digits denote on top of the value `acc` of those before them. -/
def binaryValue (acc : Nat) (digits : List Char) : Nat :=
  digits.foldl (fun value c => 2 * value + if c = '1' then 1 else 0) acc

/-- The byte that a token denotes: binary digits only, at least one of them, with as many leading
zeros as one likes. -/
def byte? (token : List Char) : Option UInt8 :=
  if !token.isEmpty && token.all (fun c => c == '0' || c == '1') then
    let value := binaryValue 0 token
    if value < 256 then some (UInt8.ofNat value) else none
  else none

/-- The bytes of some lines, the first of which has the number `number`. -/
def parseLines (number : Nat) : List (List Char) → Except InvalidLine (List UInt8)
  | [] => .ok []
  | line :: rest =>
    let text := token line
    if text.isEmpty then parseLines (number + 1) rest
    else
      match byte? text with
      | none => .error ⟨number, String.ofList text⟩
      | some byte => return byte :: (← parseLines (number + 1) rest)

/-- The bytes of a program image. -/
def parse (text : String) : Except InvalidLine (List UInt8) :=
  parseLines 1 (Lines.split text.toList)

end Image

end EightBit
