import EightBit.Proofs.Execution
import EightBit.Proofs.Step
import Mathlib.Logic.Function.Basic

/-!
# The instruction set

The instruction set is written down as a table of rules over the bytes in memory: each says when
it applies, how the step ends, what it changes and which text it prints. Cells and registers are
functions here, changed one place at a time, and addresses are numbers, reduced modulo 256 where
they wrap around.

`rule_iff_step` says that the table describes the machine exactly: whatever the state, a step ends
as the one rule that applies says, has the effect that this rule says, and changes nothing else.
-/

namespace EightBit

namespace Machine

variable {config : Config}

/-! ## The table -/

/-- What an instruction does: how many bytes the program counter moves on, the cells and the
registers afterwards, and what is printed, as lines and as text. -/
structure Effect where
  length : Nat
  cells : Nat → Option UInt8
  registers : Register → UInt8
  lines : List Line
  text : String

/-- The effect of changing nothing. -/
def unchanged (m : Machine config) : Effect where
  length := 0
  cells := m.memory.get?
  registers := m.registers.read
  lines := []
  text := ""

/-- `m'` is what an effect makes of `m`. A trace grows by the line of a snapshot of `m`, and all
that an effect does not speak of stays as it is. -/
structure After (m m' : Machine config) (e : Effect) : Prop where
  pc : m'.pc = m.pc + e.length
  cells : m'.memory.get? = e.cells
  registers : m'.registers.read = e.registers
  output : m'.output = m.output ++ e.lines
  outputBytes : m'.outputBytes = m.outputBytes ++ e.text.toByteArray
  snapshots : m'.snapshots = m.snapshots ++ if config.tracing then [m.snapshot] else []
  traceBytes : m'.traceBytes = m.traceBytes ++
    if config.tracing then (m.snapshot.line ++ "\n").toByteArray else .empty
  interruptPending : m'.interruptPending = m.interruptPending

/-- The opcode bytes, each with the number of its operands. -/
def instructionFormats : List (UInt8 × Nat) :=
  [(0b00000001, 0), (0b10000010, 2), (0b01000111, 1), (0b10100010, 2), (0b01000101, 1),
    (0b01000110, 1)]

/-- The address that a push writes to: one below the stack pointer, and 255 below 0. -/
def pushAddress (m : Machine config) : Nat :=
  ((m.registers.read 7).toNat + 255) % 256

/-- The rules of the instruction set: how a step from `m` ends and what it does. -/
inductive Rule (m : Machine config) : Except Fault Step → Effect → Prop where
  | outside (hpc : config.memorySize ≤ m.pc) :
      Rule m (.error (.outOfBounds m.pc config.memorySize)) m.unchanged
  | unknown {byte : UInt8} (hbyte : m.memory.get? m.pc = some byte)
      (hop : ∀ n, (byte, n) ∉ instructionFormats) :
      Rule m (.ok (.unknownOpcode byte)) m.unchanged
  /-- The operand `k` cells after the opcode is the first that is missing. -/
  | operandMissing {byte : UInt8} {n k : Nat} (hbyte : m.memory.get? m.pc = some byte)
      (hop : (byte, n) ∈ instructionFormats) (hk : k ≤ n)
      (hin : ∀ j < k, m.pc + j < config.memorySize) (hout : config.memorySize ≤ m.pc + k) :
      Rule m (.error (.outOfBounds (m.pc + k) config.memorySize)) m.unchanged
  | hlt (hcode : m.memory.Holds m.pc [0b00000001]) : Rule m (.ok .halted) m.unchanged
  | ldi {r v : UInt8} (hcode : m.memory.Holds m.pc [0b10000010, r, v]) (hr : r.toNat < 8) :
      Rule m (.ok .continued)
        { m.unchanged with
          length := 3
          registers := Function.update m.registers.read ⟨r.toNat, hr⟩ v }
  | ldiRegister {r v : UInt8} (hcode : m.memory.Holds m.pc [0b10000010, r, v])
      (hr : 8 ≤ r.toNat) : Rule m (.error (.invalidRegister r)) m.unchanged
  | prn {r : UInt8} (hcode : m.memory.Holds m.pc [0b01000111, r]) (hr : r.toNat < 8) :
      Rule m (.ok .continued)
        { m.unchanged with
          length := 2
          lines := [.value (m.registers.read ⟨r.toNat, hr⟩)]
          text := "Value = " ++ toString (m.registers.read ⟨r.toNat, hr⟩).toNat ++ "\n" }
  | prnRegister {r : UInt8} (hcode : m.memory.Holds m.pc [0b01000111, r]) (hr : 8 ≤ r.toNat) :
      Rule m (.error (.invalidRegister r)) m.unchanged
  | mulPrint {a b : UInt8} (hcode : m.memory.Holds m.pc [0b10100010, a, b])
      (hmode : config.product = .print) (ha : a.toNat < 8) (hb : b.toNat < 8) :
      Rule m (.ok .continued)
        { m.unchanged with
          length := 3
          lines := [.product ((m.registers.read ⟨a.toNat, ha⟩).toNat *
            (m.registers.read ⟨b.toNat, hb⟩).toNat)]
          text := "Multiplying operation result: " ++
            toString ((m.registers.read ⟨a.toNat, ha⟩).toNat *
              (m.registers.read ⟨b.toNat, hb⟩).toNat) ++ "\n" }
  | mulStore {a b : UInt8} (hcode : m.memory.Holds m.pc [0b10100010, a, b])
      (hmode : config.product = .store) (ha : a.toNat < 8) (hb : b.toNat < 8) :
      Rule m (.ok .continued)
        { m.unchanged with
          length := 3
          registers := Function.update m.registers.read ⟨a.toNat, ha⟩
            (UInt8.ofNat ((m.registers.read ⟨a.toNat, ha⟩).toNat *
              (m.registers.read ⟨b.toNat, hb⟩).toNat % 256))
          lines := [.product ((m.registers.read ⟨a.toNat, ha⟩).toNat *
            (m.registers.read ⟨b.toNat, hb⟩).toNat)]
          text := "Multiplying operation result: " ++
            toString ((m.registers.read ⟨a.toNat, ha⟩).toNat *
              (m.registers.read ⟨b.toNat, hb⟩).toNat) ++ "\n" }
  | mulLeft {a b : UInt8} (hcode : m.memory.Holds m.pc [0b10100010, a, b]) (ha : 8 ≤ a.toNat) :
      Rule m (.error (.invalidRegister a)) m.unchanged
  | mulRight {a b : UInt8} (hcode : m.memory.Holds m.pc [0b10100010, a, b]) (ha : a.toNat < 8)
      (hb : 8 ≤ b.toNat) : Rule m (.error (.invalidRegister b)) m.unchanged
  | push {r : UInt8} (hcode : m.memory.Holds m.pc [0b01000101, r]) (hr : r.toNat < 8)
      (htop : m.pushAddress < config.memorySize) :
      Rule m (.ok .continued)
        { m.unchanged with
          length := 2
          cells := Function.update m.memory.get? m.pushAddress
            (some (m.registers.read ⟨r.toNat, hr⟩))
          registers := Function.update m.registers.read 7 (UInt8.ofNat m.pushAddress) }
  | pushRegister {r : UInt8} (hcode : m.memory.Holds m.pc [0b01000101, r]) (hr : 8 ≤ r.toNat) :
      Rule m (.error (.invalidRegister r)) m.unchanged
  | pushOutside {r : UInt8} (hcode : m.memory.Holds m.pc [0b01000101, r]) (hr : r.toNat < 8)
      (htop : config.memorySize ≤ m.pushAddress) :
      Rule m (.error (.outOfBounds m.pushAddress config.memorySize)) m.unchanged
  | pop {r v : UInt8} (hcode : m.memory.Holds m.pc [0b01000110, r])
      (htop : m.memory.get? (m.registers.read 7).toNat = some v) (hr : r.toNat < 7) :
      Rule m (.ok .continued)
        { m.unchanged with
          length := 2
          registers := Function.update
            (Function.update m.registers.read ⟨r.toNat, Nat.lt_succ_of_lt hr⟩ v) 7
            (UInt8.ofNat (((m.registers.read 7).toNat + 1) % 256)) }
  | popStackPointer {v : UInt8} (hcode : m.memory.Holds m.pc [0b01000110, 7])
      (htop : m.memory.get? (m.registers.read 7).toNat = some v) :
      Rule m (.ok .continued)
        { m.unchanged with
          length := 2
          registers := Function.update m.registers.read 7 (UInt8.ofNat ((v.toNat + 1) % 256)) }
  | popOutside {r : UInt8} (hcode : m.memory.Holds m.pc [0b01000110, r])
      (htop : config.memorySize ≤ (m.registers.read 7).toNat) :
      Rule m (.error (.outOfBounds (m.registers.read 7).toNat config.memorySize)) m.unchanged
  | popRegister {r : UInt8} (hcode : m.memory.Holds m.pc [0b01000110, r])
      (htop : (m.registers.read 7).toNat < config.memorySize) (hr : 8 ≤ r.toNat) :
      Rule m (.error (.invalidRegister r)) m.unchanged

/-! ## Effects of a step -/

/-- A step from `m` ends with `r` and has the effect `e`. -/
def Does (m : Machine config) (r : Except Fault Step) (e : Effect) : Prop :=
  m.step.result = r ∧ m.After m.step.machine e

/-- Two effects that lead to the same machine are the same. -/
theorem After.unique {m m' : Machine config} {e e' : Effect} (h : m.After m' e)
    (h' : m.After m' e') : e = e' := by
  obtain ⟨length, cells, registers, lines, text⟩ := e
  obtain ⟨length', cells', registers', lines', text'⟩ := e'
  have hlength : length = length' := Nat.add_left_cancel (h.pc.symm.trans h'.pc)
  have hlines : lines = lines' := List.append_cancel_left (h.output.symm.trans h'.output)
  have htext : text = text' :=
    String.toByteArray_inj.mp <| (ByteArray.append_right_inj _).mp <|
      h.outputBytes.symm.trans h'.outputBytes
  have hcells : cells = cells' := h.cells.symm.trans h'.cells
  have hregisters : registers = registers' := h.registers.symm.trans h'.registers
  rw [hlength, hcells, hregisters, hlines, htext]

theorem after_recorded (m : Machine config) : m.After m.recorded m.unchanged :=
  ⟨rfl, rfl, rfl, (List.append_nil _).symm, ByteArray.append_empty.symm, m.snapshots_recorded,
    m.traceBytes_recorded, rfl⟩

theorem after_advance (m : Machine config) (store : Store config.memorySize) (line : Option Line)
    (length : Nat) :
    m.After (m.recorded.advance store line length)
      ⟨length, store.memory.get?, store.registers.read, line.toList, Line.render line.toList⟩ :=
  ⟨rfl, rfl, rfl, rfl, outputBytes_of_output rfl, m.snapshots_recorded, m.traceBytes_recorded,
    rfl⟩

section

variable {m : Machine config} {i : Instruction} {fault : Fault} {store : Store config.memorySize}
  {line : Option Line}

theorem does_of_fetch_error (h : m.memory.fetch m.pc = .error fault) :
    m.Does (.error fault) m.unchanged := by
  rw [Does, step_of_fetch_error h]
  exact ⟨rfl, m.after_recorded⟩

theorem does_of_execute_error (hcode : m.memory.Holds m.pc i.encode)
    (hexec : i.execute config.product m.store = .error fault) :
    m.Does (.error fault) m.unchanged := by
  rw [Does, step_of_execute_error (Memory.fetch_eq_instruction_iff.mpr hcode) hexec]
  exact ⟨rfl, m.after_recorded⟩

theorem does_of_proceed {e : Effect} (hcode : m.memory.Holds m.pc i.encode)
    (hexec : i.execute config.product m.store = .ok (.proceed store line))
    (he : e = ⟨i.encode.length, store.memory.get?, store.registers.read, line.toList,
      Line.render line.toList⟩) :
    m.Does (.ok .continued) e := by
  rw [Does, step_of_proceed (Memory.fetch_eq_instruction_iff.mpr hcode) hexec, he,
    i.length_encode]
  exact ⟨rfl, m.after_advance store line i.length⟩

end

/-! ## Cells and registers as functions -/

theorem read_write_eq_update (rs : Registers) (r : Register) (value : UInt8) :
    (rs.write r value).read = Function.update rs.read r value := by
  funext s
  rw [Registers.read_write, Function.update_apply]

theorem get?_eq_update {size : Nat} {memory memory' : Memory size} {address : Nat} {byte : UInt8}
    (h : memory.write address byte = .ok memory') :
    memory'.get? = Function.update memory.get? address (some byte) := by
  funext i
  rw [Memory.get?_of_write h, Function.update_apply]

theorem toNat_stackPointer_sub_one (m : Machine config) :
    (m.registers.stackPointer - 1).toNat = m.pushAddress := by
  rw [UInt8.toNat_sub, pushAddress, Nat.add_comm]
  rfl

theorem ofNat_mod_256 (n : Nat) : UInt8.ofNat (n % 256) = UInt8.ofNat n :=
  UInt8.ofNat_mod_size

theorem ofNat_toNat_add_one (b : UInt8) : UInt8.ofNat ((b.toNat + 1) % 256) = b + 1 := by
  rw [ofNat_mod_256, UInt8.ofNat_add, UInt8.ofNat_toNat]
  rfl

/-! ## The formats -/

theorem instructionFormats_eq :
    instructionFormats = Opcode.all.map fun op => (op.byte, op.operandCount) := by
  decide

theorem mem_instructionFormats_iff {byte : UInt8} {n : Nat} :
    (byte, n) ∈ instructionFormats ↔ ∃ op : Opcode, op.byte = byte ∧ op.operandCount = n := by
  simp only [instructionFormats_eq, List.mem_map, Prod.mk.injEq, Opcode.mem_all, true_and]

theorem ofByte?_eq_none_of_not_mem {byte : UInt8} (h : ∀ n, (byte, n) ∉ instructionFormats) :
    Opcode.ofByte? byte = none := by
  rcases hop : Opcode.ofByte? byte with _ | op
  · rfl
  · exact absurd (mem_instructionFormats_iff.mpr ⟨op, Opcode.byte_of_ofByte? hop, rfl⟩) (h _)

/-! ## The table describes the step -/

/-- Whatever rule applies, a step does what it says. -/
theorem Rule.does {m : Machine config} {r : Except Fault Step} {e : Effect} (h : Rule m r e) :
    m.Does r e := by
  cases h with
  | outside hpc => exact does_of_fetch_error (Memory.fetch_of_le hpc)
  | unknown hbyte hop =>
    rw [Does, step_of_unknown (Memory.fetch_of_no_opcode hbyte (ofByte?_eq_none_of_not_mem hop))]
    exact ⟨rfl, m.after_recorded⟩
  | @operandMissing byte n k hbyte hop hk hin hout =>
    obtain ⟨op, rfl, rfl⟩ := mem_instructionFormats_iff.mp hop
    have hfetch := Memory.fetch_of_first_missing hbyte (Opcode.ofByte?_byte op) hk hin hout
    -- no address right behind a memory of at most 256 cells is cut off
    have hlast : m.pc + k ≤ lastAddress := by
      have hpc : m.pc < config.memorySize := Memory.lt_of_get? hbyte
      have hsize : config.memorySize ≤ 256 := m.valid.memorySize_le
      have hcount : op.operandCount ≤ 2 := by cases op <;> decide
      simp only [lastAddress, UInt64.size]
      omega
    rw [Nat.min_eq_left hlast] at hfetch
    exact does_of_fetch_error hfetch
  | hlt hcode =>
    rw [Does, step_of_halt (Memory.fetch_eq_instruction_iff (i := .hlt).mpr hcode) rfl]
    exact ⟨rfl, m.after_recorded⟩
  | ldi hcode hr =>
    refine does_of_proceed (i := .ldi _ _) hcode (Instruction.execute_ldi_of_lt hr) ?_
    rw [read_write_eq_update]
    rfl
  | ldiRegister hcode hr =>
    exact does_of_execute_error (i := .ldi _ _) hcode (Instruction.execute_ldi_of_le hr)
  | prn hcode hr =>
    refine does_of_proceed (i := .prn _) hcode (Instruction.execute_prn_of_lt hr) ?_
    rw [Option.toList_some, Line.render_singleton]
    rfl
  | prnRegister hcode hr =>
    exact does_of_execute_error (i := .prn _) hcode (Instruction.execute_prn_of_le hr)
  | mulPrint hcode hmode ha hb =>
    refine does_of_proceed (i := .mul _ _) hcode
      (hmode ▸ Instruction.execute_mul_print ha hb) ?_
    rw [Option.toList_some, Line.render_singleton]
    rfl
  | mulStore hcode hmode ha hb =>
    refine does_of_proceed (i := .mul _ _) hcode
      (hmode ▸ Instruction.execute_mul_store ha hb) ?_
    rw [read_write_eq_update, ofNat_mod_256, Option.toList_some, Line.render_singleton]
    rfl
  | mulLeft hcode ha =>
    exact does_of_execute_error (i := .mul _ _) hcode (Instruction.execute_mul_of_left_le ha)
  | mulRight hcode ha hb =>
    exact does_of_execute_error (i := .mul _ _) hcode
      (Instruction.execute_mul_of_right_le ha hb)
  | push hcode hr htop =>
    rw [← toNat_stackPointer_sub_one] at htop ⊢
    obtain ⟨memory, hwrite⟩ := m.memory.exists_write htop (m.registers.read ⟨_, hr⟩)
    refine does_of_proceed (i := .push _) hcode (Instruction.execute_push_of_write hr hwrite) ?_
    rw [get?_eq_update hwrite, Registers.setStackPointer, read_write_eq_update,
      UInt8.ofNat_toNat]
    rfl
  | pushRegister hcode hr =>
    exact does_of_execute_error (i := .push _) hcode (Instruction.execute_push_of_le hr)
  | pushOutside hcode hr htop =>
    rw [← toNat_stackPointer_sub_one] at htop ⊢
    exact does_of_execute_error (i := .push _) hcode
      (Instruction.execute_push_of_size_le hr htop)
  | @pop r v hcode htop hr =>
    -- the popped value does not reach the stack pointer, which moves from where it was
    have hlt : r.toNat < 8 := Nat.lt_succ_of_lt hr
    have hne : (⟨r.toNat, hlt⟩ : Register) ≠ Register.stackPointer :=
      Fin.ne_of_val_ne (Nat.ne_of_lt hr)
    refine does_of_proceed (i := .pop r) hcode (Instruction.execute_pop_of_ne htop hlt hne) ?_
    rw [Registers.setStackPointer, read_write_eq_update, read_write_eq_update,
      ofNat_toNat_add_one]
    rfl
  | popStackPointer hcode htop =>
    refine does_of_proceed (i := .pop 7) hcode (Instruction.execute_pop_stackPointer htop) ?_
    rw [Registers.setStackPointer, read_write_eq_update, ofNat_toNat_add_one]
    rfl
  | popOutside hcode htop =>
    exact does_of_execute_error (i := .pop _) hcode (Instruction.execute_pop_of_size_le htop)
  | popRegister hcode htop hr =>
    obtain ⟨v, hv⟩ := m.memory.exists_get? htop
    exact does_of_execute_error (i := .pop _) hcode (Instruction.execute_pop_of_le hv hr)

/-- Some rule applies to every instruction that stands at the program counter. -/
theorem exists_rule_of_holds {m : Machine config} {i : Instruction}
    (hcode : m.memory.Holds m.pc i.encode) : ∃ r e, Rule m r e := by
  rcases i with _ | ⟨r, v⟩ | r | ⟨a, b⟩ | r | r
  case hlt => exact ⟨_, _, .hlt hcode⟩
  case ldi =>
    rcases Nat.lt_or_ge r.toNat 8 with hr | hr
    · exact ⟨_, _, .ldi hcode hr⟩
    · exact ⟨_, _, .ldiRegister hcode hr⟩
  case prn =>
    rcases Nat.lt_or_ge r.toNat 8 with hr | hr
    · exact ⟨_, _, .prn hcode hr⟩
    · exact ⟨_, _, .prnRegister hcode hr⟩
  case mul =>
    rcases Nat.lt_or_ge a.toNat 8 with ha | ha
    · rcases Nat.lt_or_ge b.toNat 8 with hb | hb
      · rcases hmode : config.product
        · exact ⟨_, _, .mulPrint hcode hmode ha hb⟩
        · exact ⟨_, _, .mulStore hcode hmode ha hb⟩
      · exact ⟨_, _, .mulRight hcode ha hb⟩
    · exact ⟨_, _, .mulLeft hcode ha⟩
  case push =>
    rcases Nat.lt_or_ge r.toNat 8 with hr | hr
    · rcases Nat.lt_or_ge m.pushAddress config.memorySize with htop | htop
      · exact ⟨_, _, .push hcode hr htop⟩
      · exact ⟨_, _, .pushOutside hcode hr htop⟩
    · exact ⟨_, _, .pushRegister hcode hr⟩
  case pop =>
    -- the address comes before the register
    rcases Nat.lt_or_ge (m.registers.read 7).toNat config.memorySize with htop | htop
    · obtain ⟨v, hv⟩ := m.memory.exists_get? htop
      rcases Nat.lt_or_ge r.toNat 8 with hr | hr
      · by_cases h7 : r.toNat < 7
        · exact ⟨_, _, .pop hcode hv h7⟩
        · obtain rfl : r = 7 := UInt8.toNat_inj.mp (by change r.toNat = 7; omega)
          exact ⟨_, _, .popStackPointer hcode hv⟩
      · exact ⟨_, _, .popRegister hcode htop hr⟩
    · exact ⟨_, _, .popOutside hcode htop⟩

/-- Some rule applies to every state. -/
theorem exists_rule (m : Machine config) : ∃ r e, Rule m r e := by
  rcases Nat.lt_or_ge m.pc config.memorySize with hpc | hpc
  · obtain ⟨byte, hbyte⟩ := m.memory.exists_get? hpc
    rcases hop : Opcode.ofByte? byte with _ | op
    · refine ⟨_, _, .unknown hbyte fun n hn => ?_⟩
      obtain ⟨op, rfl, -⟩ := mem_instructionFormats_iff.mp hn
      rw [Opcode.ofByte?_byte] at hop
      cases hop
    · obtain rfl := Opcode.byte_of_ofByte? hop
      rcases Nat.lt_or_ge (m.pc + op.operandCount) config.memorySize with hroom | hroom
      · obtain ⟨i, hcode⟩ := Memory.exists_holds_encode hbyte hroom
        exact exists_rule_of_holds hcode
      · -- the first missing operand would be the cell right behind the memory
        exact ⟨_, _, .operandMissing (k := config.memorySize - m.pc) hbyte
          (mem_instructionFormats_iff.mpr ⟨op, rfl, rfl⟩) (by omega)
          (fun j hj => by omega) (by omega)⟩
  · exact ⟨_, _, .outside hpc⟩

/-- The only cell that a rule changes is the one that a push writes to. -/
theorem Rule.cells_of_ne {m : Machine config} {r : Except Fault Step} {e : Effect}
    (h : Rule m r e) {address : Nat}
    (hpush : ∀ name, m.memory.Holds m.pc (Instruction.push name).encode → name.toNat < 8 →
      address ≠ m.pushAddress) : e.cells address = m.memory.get? address := by
  cases h with
  | push hcode hr htop => exact Function.update_of_ne (hpush _ hcode hr) _ _
  | _ => rfl

theorem get?_step_of_ne {m : Machine config} {address : Nat}
    (hpush : ∀ name, m.memory.Holds m.pc (Instruction.push name).encode → name.toNat < 8 →
      address ≠ m.pushAddress) :
    m.step.machine.memory.get? address = m.memory.get? address := by
  obtain ⟨r, e, hrule⟩ := m.exists_rule
  rw [hrule.does.2.cells]
  exact hrule.cells_of_ne hpush

/-- To every state some rule applies, and the rules describe the step exactly: it ends as the one
that applies says, changes what this one says, and writes what it says byte for byte. -/
theorem rule_iff_step (m : Machine config) :
    (∃ e, Rule m m.step.result e) ∧
      ∀ r e, Rule m r e ↔ m.step.result = r ∧ m.After m.step.machine e := by
  obtain ⟨r, e, hrule⟩ := exists_rule m
  obtain ⟨rfl, hafter⟩ := hrule.does
  refine ⟨⟨e, hrule⟩, fun r e' => ⟨Rule.does, ?_⟩⟩
  -- what a step does has one effect only, that of the rule known to apply
  rintro ⟨rfl, hafter'⟩
  rw [hafter'.unique hafter]
  exact hrule

end Machine

end EightBit
