import EightBit.Text.Numeral
import EightBit.Text.Quoted

/-!
# Faults

What an access to memory or registers, or a request for arithmetic, can go wrong with.
-/

namespace EightBit

/-- The highest address that a fault can name: addresses have 64 bits. -/
def lastAddress : Nat := UInt64.size - 1

/-- Why an operation of the machine failed. -/
inductive Fault where
  /-- The address lies outside a memory of `size` cells. -/
  | outOfBounds (address size : Nat)
  /-- There is no register of that index. -/
  | invalidRegister (index : UInt8)
  /-- There is no arithmetic operation of that name. -/
  | unsupportedOperation (name : String)
deriving DecidableEq, Repr

/-- A fault in words. -/
def Fault.message : Fault → String
  | .outOfBounds address size =>
    s!"memory access out of bounds (addr={Numeral.hex address}, size={size})"
  | .invalidRegister index => s!"invalid register index {index} (expected 0..=7)"
  | .unsupportedOperation name =>
    "unsupported ALU operation " ++ String.ofList (Quoted.quote name.toList)

end EightBit
