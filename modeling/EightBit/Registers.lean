import EightBit.Fault

/-!
# Registers

Eight registers of one byte each. The last one, R7, is the stack pointer. Programs name registers
by bytes, so a name can be invalid; `Register.ofByte` is the one place where that is checked.
-/

namespace EightBit

/-- The index of a register. -/
abbrev Register := Fin 8

namespace Register

/-- There are registers, so that they can be written as numerals. -/
instance instNeZero : @NeZero Nat Zero.ofOfNat0 8 :=
  Nat.instNeZeroSucc

/-- The register that the stack instructions use as stack pointer. -/
def stackPointer : Register := 7

/-- The register that a byte names. -/
def ofByte (byte : UInt8) : Except Fault Register :=
  if h : byte.toNat < 8 then .ok ⟨byte.toNat, h⟩ else .error (.invalidRegister byte)

end Register

/-- The values of the eight registers. -/
structure Registers where
  values : Vector UInt8 8
deriving DecidableEq, Repr

namespace Registers

/-- All registers zero. -/
def zeroed : Registers :=
  ⟨Vector.replicate 8 0⟩

/-- The values from R0 to R7. -/
def toList (rs : Registers) : List UInt8 :=
  rs.values.toList

/-- The value of a register. -/
def read (rs : Registers) (r : Register) : UInt8 :=
  rs.values[r]

/-- The registers with a new value for one of them. -/
def write (rs : Registers) (r : Register) (value : UInt8) : Registers :=
  ⟨rs.values.set r value⟩

/-- The value of the register that a byte names. -/
def get (rs : Registers) (name : UInt8) : Except Fault UInt8 :=
  return rs.read (← Register.ofByte name)

/-- The registers with a new value for the one that a byte names. -/
def set (rs : Registers) (name value : UInt8) : Except Fault Registers :=
  return rs.write (← Register.ofByte name) value

/-- The value of the stack pointer. -/
def stackPointer (rs : Registers) : UInt8 :=
  rs.read .stackPointer

/-- The registers with a new stack pointer. -/
def setStackPointer (rs : Registers) (value : UInt8) : Registers :=
  rs.write .stackPointer value

/-! ## The view -/

theorem ext_read {rs rs' : Registers} (h : ∀ r, rs.read r = rs'.read r) : rs = rs' := by
  cases rs; cases rs'
  congr 1
  exact Vector.ext fun i hi => h ⟨i, hi⟩

@[simp] theorem read_zeroed (r : Register) : zeroed.read r = 0 := by
  simp [read, zeroed]

theorem read_write (rs : Registers) (r : Register) (value : UInt8) (s : Register) :
    (rs.write r value).read s = if s = r then value else rs.read s := by
  simp only [read, write, Fin.getElem_fin, Vector.getElem_set, Fin.ext_iff, eq_comm]

@[simp] theorem read_write_self (rs : Registers) (r : Register) (value : UInt8) :
    (rs.write r value).read r = value := by
  rw [read_write, if_pos rfl]

end Registers

end EightBit
