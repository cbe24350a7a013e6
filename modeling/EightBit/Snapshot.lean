import EightBit.Memory
import EightBit.Registers

/-!
# Snapshots

The part of a machine that a trace shows: the program counter, the cells from there on that an
instruction can take up, and the registers.
-/

namespace EightBit

/-- What a trace line shows. -/
structure Snapshot where
  pc : Nat
  /-- The cell at the program counter and the two after it, where there is one. -/
  window : Vector (Option UInt8) 3
  registers : Registers
deriving DecidableEq, Repr

namespace Snapshot

/-- Takes a snapshot. -/
def take {size : Nat} (memory : Memory size) (registers : Registers) (pc : Nat) : Snapshot where
  pc
  window := #v[memory.get? pc, memory.get? (pc + 1), memory.get? (pc + 2)]
  registers

/-- A cell of the window: its byte, or dashes outside memory. -/
def cell : Option UInt8 → List Char
  | some byte => Numeral.upperHex byte.toNat
  | none => ['-', '-']

/-- The characters of a trace line, all numbers in hexadecimal. -/
def chars (s : Snapshot) : List Char :=
  "TRACE: ".toList ++ Numeral.upperHex s.pc ++ [' ', '|'] ++
    s.window.toList.flatMap (fun c => ' ' :: cell c) ++ [' ', '|'] ++
    s.registers.toList.flatMap (fun value => ' ' :: Numeral.upperHex value.toNat)

/-- The trace line of a snapshot, without a line end. -/
def line (s : Snapshot) : String :=
  String.ofList s.chars

/-- Trace lines, each ended by a line feed. -/
def render (snapshots : List Snapshot) : String :=
  String.join (snapshots.map fun s => s.line ++ "\n")

theorem render_append (xs ys : List Snapshot) : render (xs ++ ys) = render xs ++ render ys := by
  rw [render, List.map_append, String.join_append]
  rfl

theorem render_singleton (s : Snapshot) : render [s] = s.line ++ "\n" := by
  rw [render, List.map_singleton, String.join_cons]
  exact String.append_empty

end Snapshot

end EightBit
