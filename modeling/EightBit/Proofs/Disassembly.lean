import EightBit.Proofs.Evaluation
import Mathlib.Data.List.Basic

/-!
# Decoding and encoding are inverse

`Memory.disassemble` reads instructions that follow each other in memory, each where the one before
it ends, and `assemble` lays opcodes and their operand bytes end to end.

* `disassemble_eq_some_iff`: instructions are read from where their bytes stand, and from nowhere
  else;
* `disassemble_assemble`: what is assembled into a memory is read back, and what is read from a
  memory assembles to the bytes that it was read from.
-/

namespace EightBit

/-! ## Opcodes with operand bytes -/

/-- The bytes of some opcodes, each with its operand bytes behind it. -/
def assemble (code : List (Opcode × List UInt8)) : List UInt8 :=
  code.flatMap fun (op, operands) => op.byte :: operands

namespace Instruction

/-- The opcode of an instruction with the operands that belong to it. -/
def parts (i : Instruction) : Opcode × List UInt8 :=
  (i.opcode, [i.a, i.b].take i.opcode.operandCount)

theorem parts_eq (i : Instruction) : i.parts = (i.opcode, i.operands) := by
  rw [parts, ← length_operands]
  cases i <;> rfl

theorem encodeAll_eq_assemble (program : List Instruction) :
    encodeAll program = assemble (program.map parts) := by
  induction program with
  | nil => rfl
  | cons i rest ih =>
    rw [encodeAll_cons, ih, List.map_cons, parts_eq]
    rfl

/-- Each opcode makes an instruction of as many operand bytes as its top two bits say. -/
theorem exists_parts_eq {op : Opcode} {operands : List UInt8}
    (h : operands.length = op.operandCount) : ∃ i : Instruction, i.parts = (op, operands) := by
  cases op with
  | hlt =>
    have hnil : operands = [] := List.length_eq_zero_iff.mp h
    exact ⟨.hlt, by rw [hnil, parts_eq]; rfl⟩
  | prn =>
    obtain ⟨x, rfl⟩ := List.length_eq_one_iff.mp h
    exact ⟨.prn x, parts_eq _⟩
  | push =>
    obtain ⟨x, rfl⟩ := List.length_eq_one_iff.mp h
    exact ⟨.push x, parts_eq _⟩
  | pop =>
    obtain ⟨x, rfl⟩ := List.length_eq_one_iff.mp h
    exact ⟨.pop x, parts_eq _⟩
  | ldi =>
    obtain ⟨x, y, rfl⟩ := List.length_eq_two.mp h
    exact ⟨.ldi x y, parts_eq _⟩
  | mul =>
    obtain ⟨x, y, rfl⟩ := List.length_eq_two.mp h
    exact ⟨.mul x y, parts_eq _⟩

theorem exists_map_parts_eq {code : List (Opcode × List UInt8)}
    (h : ∀ c ∈ code, c.2.length = c.1.operandCount) :
    ∃ program : List Instruction, program.map parts = code := by
  induction code with
  | nil => exact ⟨[], rfl⟩
  | cons c code ih =>
    rw [List.forall_mem_cons] at h
    obtain ⟨i, hi⟩ := exists_parts_eq h.1
    obtain ⟨program, hprogram⟩ := ih h.2
    exact ⟨i :: program, by rw [List.map_cons, hi, hprogram]⟩

end Instruction

namespace Memory

open Instruction

variable {size : Nat}

/-! ## Reading instruction after instruction -/

/-- Reads so many instructions from an address on, each behind the one before it. They come with the
address behind the last, or not at all if one of them cannot be read. -/
def disassemble (m : Memory size) : Nat → Nat → Option (List Instruction × Nat)
  | 0, address => some ([], address)
  | count + 1, address =>
    match m.fetch address with
    | .ok (.instruction i) =>
      (m.disassemble count (address + i.length)).map fun (rest, stop) => (i :: rest, stop)
    | _ => none

theorem disassemble_succ_eq_some_iff {m : Memory size} {count address stop : Nat}
    {program : List Instruction} :
    m.disassemble (count + 1) address = some (program, stop) ↔
      ∃ i rest, program = i :: rest ∧ m.Holds address i.encode ∧
        m.disassemble count (address + i.length) = some (rest, stop) := by
  constructor
  · intro h
    rw [disassemble] at h
    split at h
    · rename_i i hfetch
      have hholds : m.Holds address i.encode := fetch_eq_instruction_iff.mp hfetch
      rw [Option.map_eq_some_iff] at h
      obtain ⟨⟨rest, last⟩, hrest, hprogram⟩ := h
      cases hprogram
      exact ⟨i, rest, rfl, hholds, hrest⟩
    · cases h
  · rintro ⟨i, rest, rfl, hholds, hrest⟩
    rw [disassemble, fetch_eq_instruction_iff.mpr hholds]
    show Option.map _ (m.disassemble count (address + i.length)) = _
    rw [hrest]
    rfl

/-- Instructions are read from where their bytes stand, and from nowhere else. -/
theorem disassemble_eq_some_iff {m : Memory size} {count address stop : Nat}
    {program : List Instruction} :
    m.disassemble count address = some (program, stop) ↔
      program.length = count ∧ m.Holds address (encodeAll program) ∧
        stop = address + (encodeAll program).length := by
  -- induction on the count; the bytes of the first instruction come off the front
  induction count generalizing address program with
  | zero =>
    rw [disassemble, List.length_eq_zero_iff]
    constructor
    · intro h
      cases h
      exact ⟨rfl, trivial, rfl⟩
    · rintro ⟨rfl, -, rfl⟩
      rfl
  | succ count ih =>
    rw [disassemble_succ_eq_some_iff]
    constructor
    · rintro ⟨i, rest, rfl, hfirst, hrest⟩
      obtain ⟨hlength, hholds, hstop⟩ := ih.mp hrest
      have hbytes : (encodeAll (i :: rest)).length = i.length + (encodeAll rest).length := by
        rw [encodeAll_cons, List.length_append, length_encode]
      refine ⟨by rw [List.length_cons, hlength], ?_, by omega⟩
      rw [encodeAll_cons, holds_append, length_encode]
      exact ⟨hfirst, hholds⟩
    · rintro ⟨hlength, hholds, hstop⟩
      cases program with
      | nil => cases hlength
      | cons i rest =>
        rw [encodeAll_cons, holds_append, length_encode] at hholds
        rw [encodeAll_cons, List.length_append, length_encode] at hstop
        have hrest : m.disassemble count (address + i.length) = some (rest, stop) :=
          ih.mpr ⟨Nat.succ.inj hlength, hholds.2, by omega⟩
        exact ⟨i, rest, rfl, hholds.1, hrest⟩

/-! ## Bytes in a row -/

/-- Bytes that stand in memory are a part of the row of its cells. -/
theorem Holds.take_drop_eq {m : Memory size} {address : Nat} {bytes : List UInt8}
    (h : m.Holds address bytes) : (m.toList.drop address).take bytes.length = bytes := by
  induction bytes generalizing address with
  | nil => simp
  | cons byte rest ih =>
    have hcell : m.toList[address]? = some byte := by
      rw [toList, Vector.getElem?_toList]
      exact h.1
    have hlt : address < m.toList.length := (List.getElem?_eq_some_iff.mp hcell).1
    have hbyte : m.toList[address] = byte := (List.getElem?_eq_some_iff.mp hcell).2
    rw [List.drop_eq_getElem_cons hlt, hbyte, List.length_cons, List.take_succ_cons, ih h.2]

/-- Decoding and encoding are inverse. Any opcodes with as many operand bytes as each asks for can
be put into memory at any address from which they fit. Read back from there, they are the same
opcodes with the same operands, those that an opcode does not have being 0, and reading ends right
behind them. Conversely, whatever instructions can be read one after the other from an address of
any memory, their bytes are those of the memory from there to where reading ends. -/
theorem disassemble_assemble (m : Memory size) (address : Nat) :
    (∀ code : List (Opcode × List UInt8), (∀ c ∈ code, c.2.length = c.1.operandCount) →
      address + (assemble code).length ≤ size →
      ∃ written program, m.load address (assemble code) = .ok written ∧
        written.disassemble code.length address =
          some (program, address + (assemble code).length) ∧
        program.map (fun i => (i.opcode, i.a, i.b)) =
          code.map fun c => (c.1, c.2.getD 0 0, c.2.getD 1 0)) ∧
    ∀ count program stop, m.disassemble count address = some (program, stop) →
      program.length = count ∧ address + (assemble (program.map parts)).length = stop ∧
        (m.toList.drop address).take (stop - address) = assemble (program.map parts) := by
  constructor
  · intro code hcode hfits
    obtain ⟨program, hprogram⟩ := exists_map_parts_eq hcode
    have hbytes : assemble code = encodeAll program := by
      rw [encodeAll_eq_assemble, hprogram]
    have hlength : program.length = code.length := by
      rw [← hprogram, List.length_map]
    have hholds : (m.overlay address (assemble code)).Holds address (encodeAll program) := by
      rw [hbytes] at hfits ⊢
      exact m.holds_overlay hfits
    refine ⟨m.overlay address (assemble code), program, ?_, ?_, ?_⟩
    · rw [load, if_pos hfits]
    · rw [disassemble_eq_some_iff, hbytes]
      exact ⟨hlength, hbytes ▸ hholds, rfl⟩
    · rw [← hprogram, List.map_map]
      apply List.map_congr_left
      intro i _
      show (i.opcode, i.a, i.b) = (i.parts.1, i.parts.2.getD 0 0, i.parts.2.getD 1 0)
      rw [parts_eq]
      rfl
  · intro count program stop h
    obtain ⟨hlength, hholds, hstop⟩ := disassemble_eq_some_iff.mp h
    rw [← encodeAll_eq_assemble]
    have hspan : stop - address = (encodeAll program).length := by omega
    refine ⟨hlength, hstop.symm, ?_⟩
    rw [hspan]
    exact hholds.take_drop_eq

/-- An instruction with two operands and one with a single operand, whose register does not exist. -/
def pairOfOpcodes : List (Opcode × List UInt8) :=
  [(.ldi, [7, 255]), (.prn, [9])]

/-- The two are put at the end of a memory of six cells and read back up to its last cell. -/
theorem disassemble_assemble_lastCell :
    (∀ c ∈ pairOfOpcodes, c.2.length = c.1.operandCount) ∧
      1 + (assemble pairOfOpcodes).length ≤ 6 ∧
      ∃ written program, (zeroed 6).load 1 (assemble pairOfOpcodes) = .ok written ∧
        written.disassemble 2 1 = some (program, 6) ∧
        program.map (fun i => (i.opcode, i.a, i.b)) = [(.ldi, 7, 255), (.prn, 9, 0)] ∧
        (written.toList.drop 1).take 5 = assemble (program.map parts) := by
  have hcode : ∀ c ∈ pairOfOpcodes, c.2.length = c.1.operandCount := by decide
  have hfits : 1 + (assemble pairOfOpcodes).length ≤ 6 := by decide
  obtain ⟨hwrite, -⟩ := disassemble_assemble (zeroed 6) 1
  obtain ⟨written, program, hload, hread, hparts⟩ := hwrite pairOfOpcodes hcode hfits
  obtain ⟨-, hspan⟩ := disassemble_assemble written 1
  obtain ⟨-, -, hbytes⟩ := hspan 2 program 6 hread
  exact ⟨hcode, hfits, written, program, hload, hread, hparts, hbytes⟩

end Memory

end EightBit
