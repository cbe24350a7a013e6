import EightBit.Alu
import EightBit.Config
import EightBit.Instruction

/-!
# Execution of one instruction

What a single instruction does to memory and registers, without regard to where it stands. All
that can fail comes before the first change, so an instruction either has its whole effect or
none.
-/

namespace EightBit

/-- A line of program output. -/
inductive Line where
  /-- A printed register. -/
  | value (byte : UInt8)
  /-- A product, in full. -/
  | product (n : Nat)
deriving DecidableEq, Repr

/-- An output line as text, without its end. -/
def Line.text : Line → String
  | .value byte => s!"Value = {byte}"
  | .product n => s!"Multiplying operation result: {n}"

/-- Output lines as text, each ended by a line feed. -/
def Line.render (lines : List Line) : String :=
  String.join (lines.map fun line => line.text ++ "\n")

theorem Line.render_append (xs ys : List Line) : render (xs ++ ys) = render xs ++ render ys := by
  rw [render, List.map_append, String.join_append]
  rfl

theorem Line.render_singleton (line : Line) : render [line] = line.text ++ "\n" := by
  rw [render, List.map_singleton, String.join_cons]
  exact String.append_empty

/-- What instructions work on. -/
structure Store (size : Nat) where
  memory : Memory size
  registers : Registers
deriving DecidableEq, Repr

/-- What an instruction amounts to when it does not fail. -/
inductive Action (size : Nat) where
  /-- The program ends. -/
  | halt
  /-- Execution goes on with the new store, perhaps after a line of output. -/
  | proceed (store : Store size) (line : Option Line)
deriving DecidableEq, Repr

namespace Instruction

variable {size : Nat}

/-- Carries out an instruction.

The stack grows downwards, and its pointer wraps around between 0 and 255. A register that is
pushed is checked before the address, and one that is popped into after it. Popping into the stack
pointer leaves the popped value plus one there, since the pointer moves last. -/
def execute (mode : ProductMode) (s : Store size) : Instruction → Except Fault (Action size)
  | .hlt => .ok .halt
  | .ldi register value => do
    let registers ← s.registers.set register value
    return .proceed { s with registers } none
  | .prn register => do
    let value ← s.registers.get register
    return .proceed s (some (.value value))
  | .mul left right => do
    let x ← s.registers.get left
    let y ← s.registers.get right
    let product := x.toNat * y.toNat
    let registers ← match mode with
      | .print => pure s.registers
      | .store => s.registers.set left (UInt8.ofNat product)
    return .proceed { s with registers } (some (.product product))
  | .push register => do
    let value ← s.registers.get register
    let top := s.registers.stackPointer - 1
    let memory ← s.memory.write top.toNat value
    return .proceed { memory, registers := s.registers.setStackPointer top } none
  | .pop register => do
    let value ← s.memory.read s.registers.stackPointer.toNat
    let registers ← s.registers.set register value
    let registers := registers.setStackPointer (registers.stackPointer + 1)
    return .proceed { s with registers } none

/-- Only an instruction with operands lets a program go on. -/
theorem two_le_length {mode : ProductMode} {s s' : Store size}
    {i : Instruction} {line : Option Line} (h : i.execute mode s = .ok (.proceed s' line)) :
    2 ≤ i.length := by
  cases i with
  | hlt => cases h
  | _ => simp only [length, opcode]; decide

end Instruction

end EightBit
