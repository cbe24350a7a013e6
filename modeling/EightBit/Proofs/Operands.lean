import EightBit.Proofs.Disassembly
import EightBit.Proofs.Tracing

/-!
# Operands at the end of memory

Decoding needs the cells behind an opcode, and nothing else decides what comes of it: with room for
all operands there is an instruction (`exists_decode_of_room`), and else the first cell that is
missing is reported (`decode_of_no_room`), whatever the memory holds.

Addresses have 64 bits, so a program counter can stand so high that there is no address for an
operand. `operandsFrom` reads operands one after the other with addresses that may not exist, and
comes to the same as decoding (`decode_eq_operandsFrom`): the address that is reported then is the
last of all, which is also the first that is missing where it has to be cut off.
-/

namespace EightBit

namespace Memory

variable {size : Nat} {m : Memory size}

/-! ## Bytes in a row -/

/-- Where there is room, some bytes stand. -/
theorem exists_holds (m : Memory size) {address count : Nat}
    (h : count = 0 ∨ address + count ≤ size) :
    ∃ bytes, bytes.length = count ∧ m.Holds address bytes := by
  induction count generalizing address with
  | zero => exact ⟨[], rfl, trivial⟩
  | succ count ih =>
    obtain ⟨byte, hbyte⟩ := m.exists_get? (show address < size by omega)
    have hroom : count = 0 ∨ address + 1 + count ≤ size := by omega
    obtain ⟨rest, hlength, hrest⟩ := ih hroom
    exact ⟨byte :: rest, by rw [List.length_cons, hlength], hbyte, hrest⟩

/-- Each of some bytes that stand in memory stands in its cell. -/
theorem Holds.get?_add {address : Nat} {bytes : List UInt8} (h : m.Holds address bytes) {k : Nat}
    (hk : k < bytes.length) : m.get? (address + k) = some (bytes.getD k 0) := by
  induction bytes generalizing address k with
  | nil => exact absurd hk (Nat.not_lt_zero k)
  | cons byte rest ih =>
    rcases k with _ | k
    · exact h.1
    · have hrest := ih h.2 (Nat.lt_of_succ_lt_succ hk)
      rwa [Nat.add_assoc, Nat.add_comm 1] at hrest

/-! ## Decoding -/

theorem exists_decode_of_room (m : Memory size) {pc : Nat} {op : Opcode}
    (h : op.operandCount = 0 ∨ pc + op.operandCount < size) :
    ∃ i, m.decode pc op = .ok i ∧ i.opcode = op ∧ m.Holds (pc + 1) i.operands := by
  have hroom : op.operandCount = 0 ∨ pc + 1 + op.operandCount ≤ size := by omega
  obtain ⟨bytes, hlength, hholds⟩ := m.exists_holds hroom
  obtain ⟨i, hi⟩ := Instruction.exists_parts_eq hlength
  rw [Instruction.parts_eq, Prod.mk.injEq] at hi
  obtain ⟨rfl, rfl⟩ := hi
  exact ⟨i, decode_eq_ok_iff.mpr ⟨rfl, hholds⟩, rfl, hholds⟩

theorem decode_of_no_room (m : Memory size) {pc : Nat} {op : Opcode}
    (hpos : 0 < op.operandCount) (h : size ≤ pc + op.operandCount) :
    m.decode pc op = .error (.outOfBounds (min (max (pc + 1) size) lastAddress) size) := by
  -- the first missing operand is the one behind the opcode, or the one in the first cell that there
  -- is not
  obtain ⟨k, hk⟩ : ∃ k, pc + k = max (pc + 1) size := ⟨max (pc + 1) size - pc, by omega⟩
  rw [← hk]
  exact decode_of_first_missing (by omega) (by omega) (fun j hj hlt => by omega) (by omega)

/-- There is an instruction exactly where there is room for all operands. -/
theorem exists_decode_iff (m : Memory size) {pc : Nat} {op : Opcode} :
    (∃ i, m.decode pc op = .ok i) ↔ op.operandCount = 0 ∨ pc + op.operandCount < size := by
  constructor
  · intro h
    obtain ⟨i, hi⟩ := h
    by_contra hroom
    rw [m.decode_of_no_room (by omega) (by omega)] at hi
    cases hi
  · intro h
    obtain ⟨i, hi, -⟩ := m.exists_decode_of_room h
    exact ⟨i, hi⟩

/-- Operands that an instruction has stand behind its opcode, and the others are 0. -/
theorem operands_of_decode {pc : Nat} {op : Opcode} {i : Instruction}
    (h : m.decode pc op = .ok i) (k : Nat) :
    if k < op.operandCount then m.get? (pc + 1 + k) = some (i.operands.getD k 0)
    else i.operands.getD k 0 = 0 := by
  obtain ⟨rfl, hholds⟩ := decode_eq_ok_iff.mp h
  rw [← i.length_operands]
  split
  · rename_i hk
    exact hholds.get?_add hk
  · rename_i hk
    rw [List.getD_eq_getElem?_getD, List.getElem?_eq_none (Nat.le_of_not_lt hk)]
    rfl

/-- Only the cells of the operands matter. -/
theorem decode_congr {m' : Memory size} {pc : Nat} {op : Opcode}
    (h : ∀ k, 0 < k → k ≤ op.operandCount → m'.get? (pc + k) = m.get? (pc + k)) :
    m'.decode pc op = m.decode pc op := by
  by_cases hroom : op.operandCount = 0 ∨ pc + op.operandCount < size
  · obtain ⟨i, hi, rfl, hholds⟩ := m.exists_decode_of_room hroom
    rw [hi, decode_eq_ok_iff]
    refine ⟨rfl, hholds.congr ?_⟩
    intro address hlo hhi
    rw [i.length_operands] at hhi
    have hcell := h (address - pc) (by omega) (by omega)
    rwa [Nat.add_sub_cancel' (by omega)] at hcell
  · rw [m.decode_of_no_room (by omega) (by omega), m'.decode_of_no_room (by omega) (by omega)]

/-! ## Addresses of 64 bits -/

/-- The operand byte `offset` cells behind an address, if it has an address itself. -/
def operandAt (m : Memory size) (pc : UInt64) (offset : Nat) : Except Fault UInt8 :=
  match address? pc offset with
  | some address => m.read address.toNat
  | none => .error (.outOfBounds lastAddress size)

/-- Reads so many operands, the first of them `offset` cells behind an address, one after the other
up to the first that is missing. -/
def operandsFrom (m : Memory size) (pc : UInt64) (offset : Nat) :
    Nat → Except Fault (List UInt8)
  | 0 => .ok []
  | count + 1 => do
    let byte ← m.operandAt pc offset
    let rest ← m.operandsFrom pc (offset + 1) count
    return byte :: rest

theorem operandAt_eq (m : Memory size) (hsize : size ≤ lastAddress) (pc : UInt64)
    (offset : Nat) : m.operandAt pc offset = m.operand pc.toNat offset := by
  have hlast : lastAddress = UInt64.size - 1 := rfl
  unfold operandAt
  rcases haddress : address? pc offset with _ | address
  · have hge := le_of_address?_eq_none haddress
    rw [operand_of_le (by omega), Nat.min_eq_right (by omega)]
  · have hsum := toNat_of_address? haddress
    have hlt : address.toNat < UInt64.size := address.toNat_lt
    show m.read address.toNat = m.operand pc.toNat offset
    rcases Nat.lt_or_ge (pc.toNat + offset) size with hinside | hge
    · obtain ⟨byte, hget⟩ := m.exists_get? hinside
      rw [operand_of_get? hget, read_eq_ok_iff, hsum]
      exact hget
    · rw [operand_of_le hge, m.read_of_le (by omega), hsum, Nat.min_eq_left (by omega)]

theorem operandsFrom_of_holds (hsize : size ≤ lastAddress) {pc : UInt64} {offset : Nat}
    {bytes : List UInt8} (h : m.Holds (pc.toNat + offset) bytes) :
    m.operandsFrom pc offset bytes.length = .ok bytes := by
  induction bytes generalizing offset with
  | nil => rfl
  | cons byte rest ih =>
    have hbyte : m.operandAt pc offset = .ok byte := by
      rw [m.operandAt_eq hsize, operand_of_get? h.1]
    have hrest : m.operandsFrom pc (offset + 1) rest.length = .ok rest := ih h.2
    simp only [List.length_cons, operandsFrom, hbyte, hrest]
    rfl

theorem operandsFrom_of_no_room (hsize : size ≤ lastAddress) {pc : UInt64} {offset count : Nat}
    (hpos : 0 < count) (h : size < pc.toNat + offset + count) :
    m.operandsFrom pc offset count =
      .error (.outOfBounds (min (max (pc.toNat + offset) size) lastAddress) size) := by
  -- induction on the count: either the first operand is missing, or there is room for it
  induction count generalizing offset with
  | zero => exact absurd hpos (Nat.lt_irrefl 0)
  | succ count ih =>
    rcases Nat.lt_or_ge (pc.toNat + offset) size with hlt | hge
    · obtain ⟨byte, hget⟩ := m.exists_get? hlt
      have hbyte : m.operandAt pc offset = .ok byte := by
        rw [m.operandAt_eq hsize, operand_of_get? hget]
      have hrest : m.operandsFrom pc (offset + 1) count =
          .error (.outOfBounds (min (max (pc.toNat + (offset + 1)) size) lastAddress) size) :=
        ih (by omega) (by omega)
      have hmax : max (pc.toNat + (offset + 1)) size = max (pc.toNat + offset) size := by omega
      simp only [operandsFrom, hbyte, hrest, hmax]
      rfl
    · have hmissing : m.operandAt pc offset =
          .error (.outOfBounds (min (pc.toNat + offset) lastAddress) size) := by
        rw [m.operandAt_eq hsize, operand_of_le hge]
      rw [Nat.max_eq_left hge]
      simp only [operandsFrom, hmissing]
      rfl

/-- Operands are decoded as if they were read one after the other. -/
theorem decode_eq_operandsFrom (m : Memory size) (hsize : size ≤ lastAddress) (pc : UInt64)
    (op : Opcode) :
    (m.decode pc.toNat op).map (fun i => (i.opcode, i.operands)) =
      (m.operandsFrom pc 1 op.operandCount).map fun bytes => (op, bytes) := by
  by_cases hroom : op.operandCount = 0 ∨ pc.toNat + op.operandCount < size
  · obtain ⟨i, hi, rfl, hholds⟩ := m.exists_decode_of_room hroom
    rw [hi, ← i.length_operands, operandsFrom_of_holds hsize hholds]
    rfl
  · rw [m.decode_of_no_room (by omega) (by omega),
      operandsFrom_of_no_room hsize (by omega) (by omega)]
    rfl

/-- Decoding is exact at every boundary. Take a memory of any size of 64 bits, any program counter
of 64 bits, and any opcode. There is an instruction exactly if the opcode has no operands or the
last of them stands in memory. Its operands are then the bytes behind the program counter, and those
that it does not have are 0. If there is none, the first operand that is missing is reported: those
before it stand in memory, and its address is the first behind the program counter and outside
memory, cut off at the last of all addresses. Only the cells of the operands matter, and reading
them one after the other, with addresses that may not exist, comes to the same. -/
theorem decode_exact {size : UInt64} (m : Memory size.toNat) (pc : UInt64) (op : Opcode) :
    ((∃ i, m.decode pc.toNat op = .ok i) ↔
      op.operandCount = 0 ∨ pc.toNat + op.operandCount < size.toNat) ∧
    (∀ i, m.decode pc.toNat op = .ok i → i.opcode = op ∧
      (if 0 < op.operandCount then m.get? (pc.toNat + 1) = some i.a else i.a = 0) ∧
      (if 1 < op.operandCount then m.get? (pc.toNat + 2) = some i.b else i.b = 0)) ∧
    (∀ fault, m.decode pc.toNat op = .error fault →
      ∃ k, 0 < k ∧ k ≤ op.operandCount ∧
        (∀ j, 0 < j → (j < k ↔ pc.toNat + j < size.toNat)) ∧
        pc.toNat + k = max (pc.toNat + 1) size.toNat ∧
        fault = .outOfBounds (min (pc.toNat + k) lastAddress) size.toNat) ∧
    (∀ m' : Memory size.toNat,
      (∀ k, 0 < k → k ≤ op.operandCount → m'.get? (pc.toNat + k) = m.get? (pc.toNat + k)) →
      m'.decode pc.toNat op = m.decode pc.toNat op) ∧
    (m.decode pc.toNat op).map (fun i => (i.opcode, i.operands)) =
      (m.operandsFrom pc 1 op.operandCount).map fun bytes => (op, bytes) := by
  have hsize : size.toNat ≤ lastAddress := Nat.le_sub_one_of_lt size.toNat_lt
  refine ⟨m.exists_decode_iff, fun i hi => ⟨?_, ?_, ?_⟩, fun fault hfault => ?_,
    fun m' hcells => decode_congr hcells, m.decode_eq_operandsFrom hsize pc op⟩
  · exact (decode_eq_ok_iff.mp hi).1
  · exact operands_of_decode hi 0
  · exact operands_of_decode hi 1
  · have hroom : ¬ (op.operandCount = 0 ∨ pc.toNat + op.operandCount < size.toNat) := by
      intro hroom
      obtain ⟨i, hi⟩ := m.exists_decode_iff.mpr hroom
      rw [hi] at hfault
      cases hfault
    obtain ⟨k, hk⟩ : ∃ k, pc.toNat + k = max (pc.toNat + 1) size.toNat :=
      ⟨max (pc.toNat + 1) size.toNat - pc.toNat, by omega⟩
    rw [m.decode_of_no_room (by omega) (by omega), ← hk] at hfault
    exact ⟨k, by omega, by omega, fun j hj => by omega, hk, (Except.error.inj hfault).symm⟩

/-- Two memories that differ in their first and their last cell hold the same operands between
these. Behind the last address there is none. -/
theorem decode_exact_between :
    let m : Memory (4 : UInt64).toNat := ofList [130, 7, 8, 9]
    let m' : Memory (4 : UInt64).toNat := ofList [1, 7, 8, 255]
    (∀ k, 0 < k → k ≤ Opcode.ldi.operandCount → m'.get? (0 + k) = m.get? (0 + k)) ∧
      m.decode 0 .ldi = .ok (.ldi 7 8) ∧ m'.decode 0 .ldi = .ok (.ldi 7 8) ∧
      m.decode 18446744073709551615 .prn = .error (.outOfBounds 18446744073709551615 4) := by
  intro m m'
  have hcells : ∀ k, 0 < k → k ≤ Opcode.ldi.operandCount →
      m'.get? (0 + k) = m.get? (0 + k) := by
    intro k hpos hle
    have hcount : Opcode.ldi.operandCount = 2 := by decide
    have hk : k = 1 ∨ k = 2 := by omega
    rcases hk with rfl | rfl
    · rfl
    · rfl
  have hdecode : m.decode 0 .ldi = .ok (.ldi 7 8) := rfl
  obtain ⟨-, -, -, hcongr, -⟩ := decode_exact m 0 .ldi
  exact ⟨hcells, hdecode, (hcongr m' hcells).trans hdecode, rfl⟩

end Memory

end EightBit
