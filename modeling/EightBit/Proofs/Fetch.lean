import EightBit.Instruction

/-!
# Fetching is reading back an encoding

`Memory.Holds` says that some bytes stand in memory from an address on. An instruction is fetched
exactly where its encoding stands (`fetch_eq_instruction_iff`), and a fetch that fails names the
first cell that is missing (`fetch_of_first_missing`).
-/

namespace EightBit

namespace Memory

variable {size : Nat}

/-- The bytes stand in memory one after the other, the first of them at `address`. -/
def Holds (m : Memory size) : Nat → List UInt8 → Prop
  | _, [] => True
  | address, byte :: rest => m.get? address = some byte ∧ m.Holds (address + 1) rest

theorem lt_of_get? {m : Memory size} {address : Nat} {byte : UInt8}
    (h : m.get? address = some byte) : address < size := by
  rw [← m.isSome_get?, h, Option.isSome_some]

theorem exists_get? (m : Memory size) {address : Nat} (h : address < size) :
    ∃ byte, m.get? address = some byte :=
  Option.isSome_iff_exists.mp ((m.isSome_get? address).mpr h)

/-- Bytes that stand in memory stand inside it. -/
theorem Holds.lt {m : Memory size} {address : Nat} {bytes : List UInt8}
    (h : m.Holds address bytes) {k : Nat} (hk : k < bytes.length) : address + k < size := by
  induction bytes generalizing address k with
  | nil => exact absurd hk (Nat.not_lt_zero k)
  | cons byte rest ih =>
    rcases k with _ | k
    · exact lt_of_get? h.1
    · have hlt := ih h.2 (Nat.lt_of_succ_lt_succ hk)
      omega

theorem holds_append {m : Memory size} {address : Nat} {xs ys : List UInt8} :
    m.Holds address (xs ++ ys) ↔ m.Holds address xs ∧ m.Holds (address + xs.length) ys := by
  induction xs generalizing address with
  | nil => simp only [List.nil_append, List.length_nil, Nat.add_zero, Holds, true_and]
  | cons x xs ih =>
    have hlength : address + (x :: xs).length = address + 1 + xs.length := by
      rw [List.length_cons]
      omega
    rw [List.cons_append, Holds, Holds, ih, hlength, and_assoc]

/-- Bytes stand where their cells have not changed. -/
theorem Holds.congr {size' : Nat} {m : Memory size} {m' : Memory size'} {address : Nat}
    {bytes : List UInt8} (h : m.Holds address bytes)
    (hcells : ∀ i, address ≤ i → i < address + bytes.length → m'.get? i = m.get? i) :
    m'.Holds address bytes := by
  induction bytes generalizing address with
  | nil => trivial
  | cons byte rest ih =>
    rw [List.length_cons] at hcells
    have hfirst : m'.get? address = m.get? address := hcells address (Nat.le_refl _) (by omega)
    refine ⟨hfirst.trans h.1, ih h.2 fun i hlo hhi => hcells i (by omega) (by omega)⟩

/-- A block that has been laid over a memory stands in it. -/
theorem holds_overlay (m : Memory size) {address : Nat} {block : List UInt8}
    (h : address + block.length ≤ size) : (m.overlay address block).Holds address block := by
  -- any part of the block stands behind the part before it
  have hsuffix : ∀ before rest, block = before ++ rest →
      (m.overlay address block).Holds (address + before.length) rest := by
    intro before rest hblock
    induction rest generalizing before with
    | nil => trivial
    | cons byte rest ih =>
      have hlength : block.length = before.length + (rest.length + 1) := by
        rw [hblock, List.length_append, List.length_cons]
      constructor
      · rw [get?_overlay, if_pos ⟨by omega, by omega, by omega⟩, Nat.add_sub_cancel_left, hblock,
          List.getElem?_append_right (Nat.le_refl _), Nat.sub_self, List.getElem?_cons_zero]
      · have hrest := ih (before ++ [byte]) (by rw [hblock, List.append_assoc, List.singleton_append])
        rw [List.length_append, List.length_singleton, ← Nat.add_assoc] at hrest
        exact hrest
  exact hsuffix [] block rfl

/-! ## Operands -/

theorem operand_of_get? {m : Memory size} {pc k : Nat} {byte : UInt8}
    (h : m.get? (pc + k) = some byte) : m.operand pc k = .ok byte := by
  rw [operand, h]

theorem operand_of_le {m : Memory size} {pc k : Nat} (h : size ≤ pc + k) :
    m.operand pc k = .error (.outOfBounds (min (pc + k) lastAddress) size) := by
  rw [operand, m.get?_of_le h]

theorem operand_eq_ok_iff {m : Memory size} {pc k : Nat} {byte : UInt8} :
    m.operand pc k = .ok byte ↔ m.get? (pc + k) = some byte := by
  refine ⟨fun h => ?_, operand_of_get?⟩
  rw [operand] at h
  rcases hget : m.get? (pc + k) with _ | found
  · rw [hget] at h
    cases h
  · rw [hget] at h
    cases h
    rfl

/-- An instruction is decoded after an opcode byte exactly where its operands stand. -/
theorem decode_eq_ok_iff {m : Memory size} {pc : Nat} {op : Opcode} {i : Instruction} :
    m.decode pc op = .ok i ↔ i.opcode = op ∧ m.Holds (pc + 1) i.operands := by
  constructor
  · intro h
    rcases op with _ | _ | _ | _ | _ | _
    case hlt =>
      cases h
      exact ⟨rfl, trivial⟩
    -- two operands
    case ldi | mul =>
      rcases h1 : m.operand pc 1 with _ | x
      · simp [decode, h1, bind, Except.bind] at h
      rcases h2 : m.operand pc 2 with _ | y
      · simp [decode, h1, h2, bind, Except.bind] at h
      · simp only [decode, h1, h2, bind, Except.bind, pure, Except.pure, Except.ok.injEq] at h
        subst h
        exact ⟨rfl, operand_eq_ok_iff.mp h1, operand_eq_ok_iff.mp h2, trivial⟩
    -- one operand
    case prn | push | pop =>
      rcases h1 : m.operand pc 1 with _ | x
      · simp [decode, h1, bind, Except.bind] at h
      · simp only [decode, h1, bind, Except.bind, pure, Except.pure, Except.ok.injEq] at h
        subst h
        exact ⟨rfl, operand_eq_ok_iff.mp h1, trivial⟩
  · rintro ⟨rfl, h⟩
    rcases i with _ | ⟨x, y⟩ | x | ⟨x, y⟩ | x | x
    case hlt => rfl
    case ldi | mul =>
      obtain ⟨h1, h2, -⟩ := h
      have hsecond : m.operand pc 2 = .ok y := operand_of_get? h2
      simp only [Instruction.opcode, decode, operand_of_get? h1, hsecond]
      rfl
    case prn | push | pop =>
      simp only [Instruction.opcode, decode, operand_of_get? h.1]
      rfl

/-- Where an operand is missing, the first missing one is reported. -/
theorem decode_of_first_missing {m : Memory size} {pc k : Nat} {op : Opcode}
    (hpos : 0 < k) (hk : k ≤ op.operandCount) (hin : ∀ j, 0 < j → j < k → pc + j < size)
    (hout : size ≤ pc + k) :
    m.decode pc op = .error (.outOfBounds (min (pc + k) lastAddress) size) := by
  -- no opcode has more than two operands
  have hcount : k = 1 ∨ k = 2 ∧ op.operandCount = 2 := by
    have hle : op.operandCount ≤ 2 := by cases op <;> decide
    omega
  rcases hcount with rfl | ⟨rfl, htwo⟩
  · cases op
    case hlt => exact absurd hk (by decide)
    all_goals simp only [decode, operand_of_le hout, bind, Except.bind]
  · obtain ⟨byte, hbyte⟩ := m.exists_get? (hin 1 Nat.one_pos Nat.one_lt_two)
    cases op
    case ldi | mul =>
      simp only [decode, operand_of_get? hbyte, operand_of_le hout, bind, Except.bind]
    all_goals exact absurd htwo (by decide)

/-- Where there is room for its operands, an opcode byte begins an instruction. -/
theorem exists_holds_encode {m : Memory size} {pc : Nat} {op : Opcode}
    (hbyte : m.get? pc = some op.byte) (hroom : pc + op.operandCount < size) :
    ∃ i : Instruction, m.Holds pc i.encode := by
  have hget : ∀ k ≤ op.operandCount, ∃ byte, m.get? (pc + k) = some byte := fun k hk =>
    m.exists_get? (by omega)
  rcases op with _ | _ | _ | _ | _ | _
  case hlt => exact ⟨.hlt, hbyte, trivial⟩
  case ldi =>
    obtain ⟨x, hx⟩ := hget 1 (by decide)
    obtain ⟨y, hy⟩ := hget 2 (by decide)
    exact ⟨.ldi x y, hbyte, hx, hy, trivial⟩
  case prn =>
    obtain ⟨x, hx⟩ := hget 1 (by decide)
    exact ⟨.prn x, hbyte, hx, trivial⟩
  case mul =>
    obtain ⟨x, hx⟩ := hget 1 (by decide)
    obtain ⟨y, hy⟩ := hget 2 (by decide)
    exact ⟨.mul x y, hbyte, hx, hy, trivial⟩
  case push =>
    obtain ⟨x, hx⟩ := hget 1 (by decide)
    exact ⟨.push x, hbyte, hx, trivial⟩
  case pop =>
    obtain ⟨x, hx⟩ := hget 1 (by decide)
    exact ⟨.pop x, hbyte, hx, trivial⟩

/-! ## Fetching -/

theorem fetch_of_le {m : Memory size} {pc : Nat} (h : size ≤ pc) :
    m.fetch pc = .error (.outOfBounds pc size) := by
  rw [fetch, m.read_of_le h]
  rfl

/-- Behind an opcode byte, fetching is decoding. -/
theorem fetch_of_opcode {m : Memory size} {pc : Nat} {byte : UInt8} {op : Opcode}
    (hbyte : m.get? pc = some byte) (hop : Opcode.ofByte? byte = some op) :
    m.fetch pc = (m.decode pc op).map .instruction := by
  simp only [fetch, read_eq_ok_iff.mpr hbyte, bind, Except.bind, hop]
  rcases m.decode pc op with _ | _ <;> rfl

theorem fetch_of_no_opcode {m : Memory size} {pc : Nat} {byte : UInt8}
    (hbyte : m.get? pc = some byte) (hop : Opcode.ofByte? byte = none) :
    m.fetch pc = .ok (.unknown byte) := by
  simp only [fetch, read_eq_ok_iff.mpr hbyte, bind, Except.bind, hop]
  rfl

theorem fetch_of_first_missing {m : Memory size} {pc k : Nat} {byte : UInt8} {op : Opcode}
    (hbyte : m.get? pc = some byte) (hop : Opcode.ofByte? byte = some op)
    (hk : k ≤ op.operandCount) (hin : ∀ j < k, pc + j < size) (hout : size ≤ pc + k) :
    m.fetch pc = .error (.outOfBounds (min (pc + k) lastAddress) size) := by
  have hpos : 0 < k := by
    have := lt_of_get? hbyte
    omega
  rw [fetch_of_opcode hbyte hop, decode_of_first_missing hpos hk (fun j _ hj => hin j hj) hout]
  rfl

/-- What stands at an address is an instruction exactly if its encoding stands there. -/
theorem fetch_eq_instruction_iff {m : Memory size} {pc : Nat} {i : Instruction} :
    m.fetch pc = .ok (.instruction i) ↔ m.Holds pc i.encode := by
  constructor
  · intro h
    obtain ⟨byte, hbyte⟩ := m.exists_get? (lt_of_fetch_eq_ok h)
    rcases hop : Opcode.ofByte? byte with _ | op
    · rw [fetch_of_no_opcode hbyte hop] at h
      cases h
    · rw [fetch_of_opcode hbyte hop] at h
      rcases hdecode : m.decode pc op with _ | decoded
      · rw [hdecode] at h
        cases h
      · rw [hdecode] at h
        cases h
        obtain ⟨rfl, hoperands⟩ := decode_eq_ok_iff.mp hdecode
        rw [← Opcode.byte_of_ofByte? hop] at hbyte
        exact ⟨hbyte, hoperands⟩
  · rintro ⟨hbyte, hoperands⟩
    rw [fetch_of_opcode hbyte (Opcode.ofByte?_byte _),
      decode_eq_ok_iff.mpr ⟨rfl, hoperands⟩]
    rfl

/-- Only one instruction stands at an address. -/
theorem eq_of_holds_encode {m : Memory size} {pc : Nat} {i j : Instruction}
    (hi : m.Holds pc i.encode) (hj : m.Holds pc j.encode) : i = j := by
  have h := fetch_eq_instruction_iff.mpr hi
  rw [fetch_eq_instruction_iff.mpr hj] at h
  cases h
  rfl

end Memory

end EightBit
