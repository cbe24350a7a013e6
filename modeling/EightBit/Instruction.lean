import EightBit.Memory

/-!
# Instructions

An instruction is an opcode byte followed by its operand bytes. The top two bits of the opcode
byte give the number of operands, so the length of an instruction is known from its first byte.

`Instruction.encode` writes an instruction as bytes; `Memory.decode` and `Memory.fetch` read one
back from memory.
-/

namespace EightBit

/-- What an instruction does, without its operands. -/
inductive Opcode where
  /-- Stop. -/
  | hlt
  /-- Put a byte into a register. -/
  | ldi
  /-- Print the value of a register. -/
  | prn
  /-- Multiply two registers. -/
  | mul
  /-- Put a register on the stack. -/
  | push
  /-- Take the top of the stack into a register. -/
  | pop
deriving DecidableEq, Repr

namespace Opcode

/-- All opcodes, in the order by which they are numbered. -/
def all : List Opcode :=
  [.hlt, .ldi, .prn, .mul, .push, .pop]

/-- The byte that stands for an opcode. -/
def byte : Opcode → UInt8
  | .hlt => 0b00000001
  | .ldi => 0b10000010
  | .prn => 0b01000111
  | .mul => 0b10100010
  | .push => 0b01000101
  | .pop => 0b01000110

/-- The opcode that a byte stands for. -/
def ofByte? (b : UInt8) : Option Opcode :=
  all.find? (·.byte == b)

/-- The number of an opcode. -/
def index (op : Opcode) : Nat :=
  all.idxOf op

/-- How many operand bytes follow, as the top two bits of the opcode byte say. -/
def operandCount (op : Opcode) : Nat :=
  (op.byte >>> 6).toNat

/-- The name of an opcode in assembly text. -/
def mnemonic : Opcode → String
  | .hlt => "HLT"
  | .ldi => "LDI"
  | .prn => "PRN"
  | .mul => "MUL"
  | .push => "PUSH"
  | .pop => "POP"

/-- The opcode of a mnemonic. -/
def ofMnemonic? (text : String) : Option Opcode :=
  all.find? (·.mnemonic == text)

theorem ofByte?_byte (op : Opcode) : ofByte? op.byte = some op := by
  cases op <;> decide

theorem byte_of_ofByte? {b : UInt8} {op : Opcode} (h : ofByte? b = some op) : op.byte = b := by
  have := List.find?_some h
  simpa using this

theorem ofByte?_eq_some_iff {b : UInt8} {op : Opcode} : ofByte? b = some op ↔ op.byte = b :=
  ⟨byte_of_ofByte?, fun h => h ▸ ofByte?_byte op⟩

theorem byte_inj {op op' : Opcode} : op.byte = op'.byte ↔ op = op' := by
  refine ⟨fun h => ?_, congrArg byte⟩
  have hsome := ofByte?_byte op
  rw [h, ofByte?_byte] at hsome
  exact (Option.some.inj hsome).symm

theorem mem_all (op : Opcode) : op ∈ all := by
  cases op <;> decide

theorem index_lt (op : Opcode) : op.index < all.length :=
  List.idxOf_lt_length_iff.mpr op.mem_all

theorem getElem?_index (op : Opcode) : all[op.index]? = some op := by
  rw [List.getElem?_eq_getElem op.index_lt]
  exact congrArg some (List.getElem_idxOf op.index_lt)

theorem ofMnemonic?_eq_some_iff {text : String} {op : Opcode} :
    ofMnemonic? text = some op ↔ op.mnemonic = text := by
  constructor
  · intro h
    simpa using List.find?_some h
  · rintro rfl
    cases op <;> decide

end Opcode

/-! ## The opcode table -/

/-- A table that has an opcode or nothing for each byte. -/
structure OpcodeTable where
  entries : Vector (Option Opcode) 256

namespace OpcodeTable

/-- The table in which no byte is an opcode. -/
def empty : OpcodeTable :=
  ⟨Vector.replicate 256 none⟩

/-- The table with an opcode entered at its byte. -/
def enter (t : OpcodeTable) (op : Opcode) : OpcodeTable :=
  ⟨t.entries.set op.byte.toNat (some op) op.byte.toNat_lt⟩

/-- The table of all opcodes. -/
def full : OpcodeTable :=
  Opcode.all.foldl enter empty

/-- The opcode that is entered at a byte. -/
def lookup (t : OpcodeTable) (byte : UInt8) : Option Opcode :=
  have hlt : byte.toNat < 256 := byte.toNat_lt
  t.entries[byte.toNat]

theorem lookup_empty (byte : UInt8) : empty.lookup byte = none :=
  Vector.getElem_replicate _

theorem lookup_enter (t : OpcodeTable) (op : Opcode) (byte : UInt8) :
    (t.enter op).lookup byte = if op.byte = byte then some op else t.lookup byte := by
  simp only [lookup, enter, Vector.getElem_set, UInt8.toNat_inj]

theorem lookup_foldl_enter_byte {t : OpcodeTable} {op : Opcode} {ops : List Opcode}
    (h : op ∈ ops ∨ t.lookup op.byte = some op) :
    (ops.foldl enter t).lookup op.byte = some op := by
  induction ops generalizing t with
  | nil => exact h.resolve_left List.not_mem_nil
  | cons first rest ih =>
    refine ih ?_
    rw [lookup_enter]
    by_cases hbyte : first.byte = op.byte
    · rw [if_pos hbyte, Opcode.byte_inj.mp hbyte]
      exact Or.inr rfl
    · rw [if_neg hbyte]
      exact h.imp_left fun hmem =>
        (List.mem_cons.mp hmem).resolve_left fun heq => hbyte (heq ▸ rfl)

theorem byte_of_lookup_foldl_enter {t : OpcodeTable} (ops : List Opcode)
    (h : ∀ byte op, t.lookup byte = some op → op.byte = byte) :
    ∀ byte op, (ops.foldl enter t).lookup byte = some op → op.byte = byte := by
  induction ops generalizing t with
  | nil => exact h
  | cons first rest ih =>
    refine ih fun byte op hop => ?_
    rw [lookup_enter] at hop
    split at hop
    · rename_i hbyte
      rwa [← Option.some.inj hop]
    · exact h byte op hop

/-- The table of all opcodes gives the opcode that a byte stands for. -/
theorem lookup_full (byte : UInt8) : full.lookup byte = Opcode.ofByte? byte := by
  have hempty : ∀ byte op, empty.lookup byte = some op → op.byte = byte := by
    intro byte op hop
    rw [lookup_empty] at hop
    cases hop
  refine Option.ext fun op => ?_
  rw [Opcode.ofByte?_eq_some_iff]
  constructor
  · exact byte_of_lookup_foldl_enter Opcode.all hempty byte op
  · rintro rfl
    exact lookup_foldl_enter_byte (Or.inl op.mem_all)

end OpcodeTable

/-! ## Instructions -/

/-- An opcode with its operands. Registers are named by bytes, valid or not. -/
inductive Instruction where
  | hlt
  | ldi (register value : UInt8)
  | prn (register : UInt8)
  | mul (left right : UInt8)
  | push (register : UInt8)
  | pop (register : UInt8)
deriving DecidableEq, Repr

namespace Instruction

/-- The opcode of an instruction. -/
def opcode : Instruction → Opcode
  | .hlt => .hlt
  | .ldi _ _ => .ldi
  | .prn _ => .prn
  | .mul _ _ => .mul
  | .push _ => .push
  | .pop _ => .pop

/-- The operand bytes, in order. -/
def operands : Instruction → List UInt8
  | .hlt => []
  | .ldi register value => [register, value]
  | .prn register => [register]
  | .mul left right => [left, right]
  | .push register => [register]
  | .pop register => [register]

/-- The first operand, 0 if there is none. -/
def a (i : Instruction) : UInt8 :=
  i.operands.getD 0 0

/-- The second operand, 0 if there is none. -/
def b (i : Instruction) : UInt8 :=
  i.operands.getD 1 0

/-- The number of bytes of an instruction. -/
def length (i : Instruction) : Nat :=
  1 + i.opcode.operandCount

/-- The bytes of an instruction. -/
def encode (i : Instruction) : List UInt8 :=
  i.opcode.byte :: i.operands

theorem length_operands (i : Instruction) : i.operands.length = i.opcode.operandCount := by
  cases i <;> simp only [operands, opcode, List.length_cons, List.length_nil] <;> decide

theorem length_encode (i : Instruction) : i.encode.length = i.length := by
  rw [encode, List.length_cons, length_operands, length, Nat.add_comm]

end Instruction

/-! ## Reading instructions from memory -/

/-- What stands at an address of memory. -/
inductive Fetched where
  | instruction (i : Instruction)
  /-- A byte that is no opcode. -/
  | unknown (byte : UInt8)
deriving DecidableEq, Repr

namespace Memory

variable {size : Nat}

/-- The operand byte `offset` cells after `pc`. An address past the last one is reported as the
last one. -/
def operand (m : Memory size) (pc offset : Nat) : Except Fault UInt8 :=
  match m.get? (pc + offset) with
  | some byte => .ok byte
  | none => .error (.outOfBounds (min (pc + offset) lastAddress) size)

/-- Reads the operands of an opcode that stands at `pc`. The cell at `pc` is not looked at. -/
def decode (m : Memory size) (pc : Nat) : Opcode → Except Fault Instruction
  | .hlt => .ok .hlt
  | .ldi => return .ldi (← m.operand pc 1) (← m.operand pc 2)
  | .prn => return .prn (← m.operand pc 1)
  | .mul => return .mul (← m.operand pc 1) (← m.operand pc 2)
  | .push => return .push (← m.operand pc 1)
  | .pop => return .pop (← m.operand pc 1)

/-- Reads what stands at `pc`: an instruction with all its operands, or an unknown byte. -/
def fetch (m : Memory size) (pc : Nat) : Except Fault Fetched := do
  let byte ← m.read pc
  match Opcode.ofByte? byte with
  | none => return .unknown byte
  | some op => return .instruction (← m.decode pc op)

/-- Whatever is fetched stands inside memory. -/
theorem lt_of_fetch_eq_ok {m : Memory size} {pc : Nat} {f : Fetched}
    (h : m.fetch pc = .ok f) : pc < size := by
  by_cases hlt : pc < size
  · exact hlt
  · rw [fetch, m.read_of_le (Nat.le_of_not_lt hlt)] at h
    cases h

end Memory

end EightBit
