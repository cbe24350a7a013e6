import EightBit.Text.Numeral

/-!
# Configuration of a machine

The settings that a machine is built from, and which of them make sense. Registers hold one byte,
so the stack pointer can address 256 cells and a memory is never larger.
-/

namespace EightBit

/-- What happens to the product of a multiplication, besides being printed. -/
inductive ProductMode where
  /-- Nothing. -/
  | print
  /-- Its low byte goes to the first register. -/
  | store
deriving DecidableEq, Repr

/-- The settings of a machine. -/
structure Config where
  memorySize : Nat := 255
  /-- The value that R7 starts from. -/
  stackPointer : UInt8 := 0
  product : ProductMode := .print
  /-- Whether a snapshot is recorded before every step. -/
  tracing : Bool := false
deriving DecidableEq, Repr

/-- The largest memory that the stack pointer can address. -/
def maxMemorySize : Nat := 256

/-- Settings that a machine can be built from. The stack pointer may lie right behind the last
cell, where an empty stack begins. -/
structure Config.Valid (c : Config) : Prop where
  memorySize_pos : 0 < c.memorySize
  memorySize_le : c.memorySize ≤ maxMemorySize
  stackPointer_le : c.stackPointer.toNat ≤ c.memorySize

/-- Why settings are refused. -/
inductive ConfigError where
  | memorySize (size : Nat)
  | stackPointer (stackPointer : UInt8) (memorySize : Nat)
deriving DecidableEq, Repr

/-- The reason for a refusal in words. -/
def ConfigError.message : ConfigError → String
  | .memorySize size => s!"invalid memory size {size} (expected 1..={maxMemorySize})"
  | .stackPointer value size =>
    s!"initial stack pointer {Numeral.hex value.toNat} is outside memory of {size} bytes"

end EightBit
