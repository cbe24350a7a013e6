import EightBit.Dump
import EightBit.Machine.Basic

/-!
# Inspecting a machine

Dumps of a machine and of the opcode table.
-/

namespace EightBit

/-- The name of a product mode in dumps. -/
def ProductMode.label : ProductMode → String
  | .print => "Print"
  | .store => "Store"

/-- The settings as a dump. -/
def Config.dump (c : Config) : Dump :=
  .record "MachineConfig"
    [("memory_size", .single (toString c.memorySize)),
     ("initial_stack_pointer", .single (toString c.stackPointer)),
     ("mul_mode", .single c.product.label),
     ("trace", .single (if c.tracing then "true" else "false"))]
    false

/-- The registers as a dump. -/
def Registers.dump (rs : Registers) : Dump :=
  .record "Registers" [("regs", .list (rs.toList.map fun value => .single (toString value)))] false

/-- What a dump shows of a machine: the settings, the program counter and the registers. -/
def Machine.dump {config : Config} (m : Machine config) : Dump :=
  .record "Machine"
    [("cfg", config.dump), ("pc", .single (toString m.pc)), ("regs", m.registers.dump)]
    true

namespace Opcode

/-- The name of an opcode in dumps. -/
def label : Opcode → String
  | .hlt => "Hlt"
  | .ldi => "Ldi"
  | .prn => "Prn"
  | .mul => "Mul"
  | .push => "Push"
  | .pop => "Pop"

theorem toUpper_label (op : Opcode) : op.label.toUpper = op.mnemonic := by
  cases op <;> decide +kernel

end Opcode

namespace OpcodeTable

/-- The bytes at which there is an opcode, in ascending order. -/
def bindings (t : OpcodeTable) : List (Nat × Opcode) :=
  (List.range 256).filterMap fun byte => (t.lookup (UInt8.ofNat byte)).map (byte, ·)

/-- A table in one line. -/
def inLine (t : OpcodeTable) : String :=
  "\x7b" ++ ", ".intercalate (t.bindings.map fun (byte, op) => s!"{byte}: {op.label}") ++ "\x7d"

theorem mem_bindings_iff {t : OpcodeTable} {n : Nat} {op : Opcode} :
    (n, op) ∈ t.bindings ↔ ∃ byte : UInt8, byte.toNat = n ∧ t.lookup byte = some op := by
  simp only [bindings, List.mem_filterMap, List.mem_range, Option.map_eq_some_iff, Prod.mk.injEq]
  constructor
  · rintro ⟨n, hlt, op, hop, rfl, rfl⟩
    exact ⟨UInt8.ofNat n, UInt8.toNat_ofNat_of_lt' hlt, hop⟩
  · rintro ⟨byte, rfl, hop⟩
    exact ⟨byte.toNat, byte.toNat_lt, op, by rwa [UInt8.ofNat_toNat], rfl, rfl⟩

theorem pairwise_bindings (t : OpcodeTable) : t.bindings.Pairwise fun x y => x.1 < y.1 := by
  rw [bindings, List.pairwise_filterMap]
  refine List.pairwise_lt_range.imp fun hlt x hx y hy => ?_
  rw [Option.map_eq_some_iff] at hx hy
  obtain ⟨-, -, rfl⟩ := hx
  obtain ⟨-, -, rfl⟩ := hy
  exact hlt

end OpcodeTable

/-- The opcode table in one line. -/
def Opcode.tableText : String :=
  OpcodeTable.full.inLine

example : Opcode.tableText =
    "\x7b1: Hlt, 69: Push, 70: Pop, 71: Prn, 130: Ldi, 162: Mul\x7d" := by
  rw [Opcode.tableText, OpcodeTable.inLine, OpcodeTable.bindings]
  simp only [OpcodeTable.lookup_full]
  decide +kernel

end EightBit
