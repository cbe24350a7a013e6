import EightBit.Execution

/-!
# The cases of execution

What each instruction amounts to, one equation for each way it can go. The hypotheses of an
equation are the checks that come out so, in the order in which they are made.
-/

namespace EightBit

/-! ## Cells and registers -/

theorem Memory.exists_write {size : Nat} (m : Memory size) {address : Nat}
    (h : address < size) (byte : UInt8) : ∃ m', m.write address byte = .ok m' :=
  ⟨_, dif_pos h⟩

namespace Registers

theorem get_of_lt (rs : Registers) {name : UInt8} (h : name.toNat < 8) :
    rs.get name = .ok (rs.read ⟨name.toNat, h⟩) := by
  simp only [get, Register.ofByte, dif_pos h]
  rfl

theorem get_of_le (rs : Registers) {name : UInt8} (h : 8 ≤ name.toNat) :
    rs.get name = .error (.invalidRegister name) := by
  simp only [get, Register.ofByte, dif_neg (Nat.not_lt.mpr h)]
  rfl

theorem set_of_lt (rs : Registers) {name : UInt8} (value : UInt8) (h : name.toNat < 8) :
    rs.set name value = .ok (rs.write ⟨name.toNat, h⟩ value) := by
  simp only [set, Register.ofByte, dif_pos h]
  rfl

theorem set_of_le (rs : Registers) {name : UInt8} (value : UInt8) (h : 8 ≤ name.toNat) :
    rs.set name value = .error (.invalidRegister name) := by
  simp only [set, Register.ofByte, dif_neg (Nat.not_lt.mpr h)]
  rfl

theorem combine_of_lt (rs : Registers) (op : AluOperation) {a b : UInt8} (ha : a.toNat < 8)
    (hb : b.toNat < 8) :
    rs.combine op a b =
      .ok (rs.write ⟨a.toNat, ha⟩ (op.apply (rs.read ⟨a.toNat, ha⟩) (rs.read ⟨b.toNat, hb⟩))) := by
  rw [combine, get_of_lt _ ha, get_of_lt _ hb]
  exact set_of_lt _ _ ha

theorem combine_of_left_le (rs : Registers) (op : AluOperation) {a : UInt8} (ha : 8 ≤ a.toNat)
    (b : UInt8) : rs.combine op a b = .error (.invalidRegister a) := by
  rw [combine, get_of_le _ ha]
  rfl

theorem combine_of_right_le (rs : Registers) (op : AluOperation) {a b : UInt8} (ha : a.toNat < 8)
    (hb : 8 ≤ b.toNat) : rs.combine op a b = .error (.invalidRegister b) := by
  rw [combine, get_of_lt _ ha, get_of_le _ hb]
  rfl

theorem write_write_self (rs : Registers) (r : Register) (first second : UInt8) :
    (rs.write r first).write r second = rs.write r second := by
  apply ext_read
  intro s
  simp only [read_write]
  split <;> rfl

theorem stackPointer_write_of_ne (rs : Registers) {r : Register} (value : UInt8)
    (h : r ≠ .stackPointer) : (rs.write r value).stackPointer = rs.stackPointer := by
  rw [stackPointer, read_write, if_neg h.symm, stackPointer]

end Registers

/-! ## Instructions -/

namespace Instruction

open Registers

variable {size : Nat} {mode : ProductMode} {s : Store size} {register left right value : UInt8}

theorem execute_ldi_of_lt (h : register.toNat < 8) :
    (ldi register value).execute mode s =
      .ok (.proceed { s with registers := s.registers.write ⟨register.toNat, h⟩ value } none) := by
  rw [execute, set_of_lt _ _ h]
  rfl

theorem execute_ldi_of_le (h : 8 ≤ register.toNat) :
    (ldi register value).execute mode s = .error (.invalidRegister register) := by
  rw [execute, set_of_le _ _ h]
  rfl

theorem execute_prn_of_lt (h : register.toNat < 8) :
    (prn register).execute mode s =
      .ok (.proceed s (some (.value (s.registers.read ⟨register.toNat, h⟩)))) := by
  rw [execute, get_of_lt _ h]
  rfl

theorem execute_prn_of_le (h : 8 ≤ register.toNat) :
    (prn register).execute mode s = .error (.invalidRegister register) := by
  rw [execute, get_of_le _ h]
  rfl

theorem execute_mul_print (hleft : left.toNat < 8) (hright : right.toNat < 8) :
    (mul left right).execute .print s =
      .ok (.proceed s (some (.product ((s.registers.read ⟨left.toNat, hleft⟩).toNat *
        (s.registers.read ⟨right.toNat, hright⟩).toNat)))) := by
  rw [execute, get_of_lt _ hleft, get_of_lt _ hright]
  rfl

theorem execute_mul_store (hleft : left.toNat < 8) (hright : right.toNat < 8) :
    (mul left right).execute .store s =
      let product := (s.registers.read ⟨left.toNat, hleft⟩).toNat *
        (s.registers.read ⟨right.toNat, hright⟩).toNat
      .ok (.proceed
        { s with registers := s.registers.write ⟨left.toNat, hleft⟩ (UInt8.ofNat product) }
        (some (.product product))) := by
  rw [execute, get_of_lt _ hleft, get_of_lt _ hright]
  simp only [set_of_lt _ _ hleft, bind, Except.bind, pure, Except.pure]

theorem execute_mul_of_left_le (hleft : 8 ≤ left.toNat) :
    (mul left right).execute mode s = .error (.invalidRegister left) := by
  rw [execute, get_of_le _ hleft]
  rfl

theorem execute_mul_of_right_le (hleft : left.toNat < 8) (hright : 8 ≤ right.toNat) :
    (mul left right).execute mode s = .error (.invalidRegister right) := by
  rw [execute, get_of_lt _ hleft, get_of_le _ hright]
  rfl

theorem execute_push_of_write {memory : Memory size} (h : register.toNat < 8)
    (hwrite : s.memory.write (s.registers.stackPointer - 1).toNat
      (s.registers.read ⟨register.toNat, h⟩) = .ok memory) :
    (push register).execute mode s =
      .ok (.proceed
        ⟨memory, s.registers.setStackPointer (s.registers.stackPointer - 1)⟩ none) := by
  rw [execute, get_of_lt _ h]
  simp only [hwrite, bind, Except.bind, pure, Except.pure]

theorem execute_push_of_le (h : 8 ≤ register.toNat) :
    (push register).execute mode s = .error (.invalidRegister register) := by
  rw [execute, get_of_le _ h]
  rfl

theorem execute_push_of_size_le (h : register.toNat < 8)
    (htop : size ≤ (s.registers.stackPointer - 1).toNat) :
    (push register).execute mode s =
      .error (.outOfBounds (s.registers.stackPointer - 1).toNat size) := by
  rw [execute, get_of_lt _ h]
  simp only [s.memory.write_of_le htop, bind, Except.bind]

/-- The stack pointer moves after the register has its value, which may be the stack pointer. -/
theorem execute_pop_of_get? (htop : s.memory.get? s.registers.stackPointer.toNat = some value)
    (h : register.toNat < 8) :
    (pop register).execute mode s =
      let registers := s.registers.write ⟨register.toNat, h⟩ value
      .ok (.proceed
        { s with registers := registers.setStackPointer (registers.stackPointer + 1) } none) := by
  rw [execute, Memory.read_eq_ok_iff.mpr htop]
  simp only [set_of_lt _ _ h, bind, Except.bind, pure, Except.pure]

/-- Popping into another register than the stack pointer moves the stack pointer by one. -/
theorem execute_pop_of_ne (htop : s.memory.get? s.registers.stackPointer.toNat = some value)
    (h : register.toNat < 8) (hne : (⟨register.toNat, h⟩ : Register) ≠ Register.stackPointer) :
    (pop register).execute mode s =
      .ok (.proceed { s with
        registers := (s.registers.write ⟨register.toNat, h⟩ value).setStackPointer
          (s.registers.stackPointer + 1) } none) := by
  rw [execute_pop_of_get? htop h]
  simp only [s.registers.stackPointer_write_of_ne value hne]

/-- Popping into the stack pointer leaves the successor of the popped value there. -/
theorem execute_pop_stackPointer
    (htop : s.memory.get? s.registers.stackPointer.toNat = some value) :
    (pop 7).execute mode s =
      .ok (.proceed { s with registers := s.registers.setStackPointer (value + 1) } none) := by
  have hlt : (7 : UInt8).toNat < 8 := by decide
  rw [execute_pop_of_get? htop hlt]
  have hread : (s.registers.write ⟨(7 : UInt8).toNat, hlt⟩ value).stackPointer = value :=
    Registers.read_write_self _ _ _
  have hwrite : (s.registers.write ⟨(7 : UInt8).toNat, hlt⟩ value).setStackPointer (value + 1) =
      s.registers.setStackPointer (value + 1) :=
    Registers.write_write_self _ _ _ _
  simp only [hread, hwrite]

theorem execute_pop_of_size_le (htop : size ≤ s.registers.stackPointer.toNat) :
    (pop register).execute mode s =
      .error (.outOfBounds s.registers.stackPointer.toNat size) := by
  rw [execute, s.memory.read_of_le htop]
  rfl

theorem execute_pop_of_le (htop : s.memory.get? s.registers.stackPointer.toNat = some value)
    (h : 8 ≤ register.toNat) :
    (pop register).execute mode s = .error (.invalidRegister register) := by
  rw [execute, Memory.read_eq_ok_iff.mpr htop]
  simp only [set_of_le _ _ h, bind, Except.bind]

end Instruction

end EightBit
