import EightBit.FileTree
import EightBit.Image
import EightBit.Text.Utf8

/-!
# Image files

A program image in a file. The whole file has to be UTF-8 before any of its lines is looked at.
-/

namespace EightBit

/-- Why a file gives no program. -/
inductive ImageError where
  | unreadable (path : String) (why : ReadError)
  /-- The bytes of the file encode text only up to `offset`. -/
  | notUtf8 (path : String) (offset : Nat)
  | invalidLine (e : InvalidLine)
deriving DecidableEq, Repr

/-- The trouble with a file in words. -/
def ImageError.message : ImageError → String
  | .unreadable path .missing => s!"{path} not found"
  | .unreadable path why => s!"failed to read {path}: {why.reason}"
  | .notUtf8 path offset => s!"{path} is not UTF-8 text (invalid byte at offset {offset})"
  | .invalidLine e => e.message

/-- The program in a file, given what reading the path gave. -/
def Image.ofFile (path : String) (content : Except ReadError ByteArray) :
    Except ImageError (List UInt8) := do
  let bytes ← content.mapError (.unreadable path)
  let text ← (Utf8.decode bytes).mapError (.notUtf8 path)
  (Image.parse text).mapError .invalidLine

end EightBit
